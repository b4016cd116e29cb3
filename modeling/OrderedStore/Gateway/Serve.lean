import OrderedStore.Gateway.Call
import OrderedStore.Handle.Registry
import OrderedStore.Log.Directives
import OrderedStore.Store.Property

/-!
# Serving calls

A gateway puts tokens in front of a store.  It knows which session each snapshot and
iterator was made through, and refuses a snapshot that comes with the token of another
database; closing a database closes what was made through it.

`serve` answers one call.  It forgets the last failure first, so afterwards the words
that the host can ask for are those of this call, or none if it succeeded.
-/

set_option autoImplicit false

namespace OrderedStore

/-- A thing made through the token of a database. -/
structure Child (α : Type) where
  owner : Token
  thing : α
  deriving DecidableEq, Repr

/-- A store behind tokens. -/
structure Gateway where
  store : Store
  databases : Registry SessionId
  iterators : Registry (Child IteratorId)
  snapshots : Registry (Child SnapshotId)
  batches : Registry Batch
  /-- The words of the last failure. -/
  lastError : Option String
  /-- The directives that the environment sets for log lines. -/
  directives : Option String
  /-- Does the host receive log lines? -/
  listening : Bool

namespace Gateway

/-- A gateway in front of a store with nothing open. -/
def ofStore (s : Store) (directives : Option String) : Gateway where
  store := s
  databases := .empty .database
  iterators := .empty .iterator
  snapshots := .empty .snapshot
  batches := .empty .batch
  lastError := none
  directives := directives
  listening := false

/-! ## The last failure -/

/-- Keeps the words of a failure. -/
def setError (g : Gateway) (text : String) : Gateway :=
  { g with lastError := some (withoutNul text) }

/-- Forgets the last failure. -/
def clearError (g : Gateway) : Gateway := { g with lastError := none }

/-! ## Finding things -/

/-- The thing behind a token, or the failure to find one. -/
def find {α : Type} (r : Registry α) (t : Token) : Except Failure α :=
  (r.get t).mapError .handle

/-- The snapshot that comes with a call on a database; the null token is no
snapshot. -/
def snapshotFor (g : Gateway) (database snapshot : Token) :
    Except Failure (Option SnapshotId) :=
  if snapshot = 0 then .ok none
  else match find g.snapshots snapshot with
    | .error failure => .error failure
    | .ok child =>
      if child.owner = database then .ok (some child.thing) else .error .foreignSnapshot

/-- The text of a path argument. -/
def readPath : PathArgument → Except Failure String
  | none => .error .nullPath
  | some bytes =>
    match Utf8.text? (bytes.takeWhile (· ≠ 0)) with
    | some text => .ok text
    | none => .error .malformedPath

/-! ## Shapes of calls -/

/-- Nothing is done, and the call fails. -/
def refuse (g : Gateway) (output : Output) (failure : Failure) : Gateway × Reply :=
  (g, ⟨output, some failure⟩)

/-- A call that has no output. -/
def silently (g : Gateway) : Except Failure Unit → Gateway × Reply
  | .ok () => (g, ⟨.untouched, none⟩)
  | .error failure => (g, ⟨.untouched, some failure⟩)

/-- Goes on with what has been found, or fails with what has been put into the output
place so far. -/
def withFound {α : Type} (g : Gateway) (output : Output) (found : Except Failure α)
    (go : α → Gateway × Reply) : Gateway × Reply :=
  match found with
  | .error failure => g.refuse output failure
  | .ok a => go a

/-- Takes over the store that an operation has left. -/
def withStore {α : Type} (g : Gateway) (output : Output) (result : Store × Except Error α)
    (go : Gateway → α → Gateway × Reply) : Gateway × Reply :=
  let g := { g with store := result.1 }
  match result.2 with
  | .error e => g.refuse output (.store e)
  | .ok a => go g a

/-- An operation of the store without output. -/
def onStore (g : Gateway) (result : Store × Except Error Unit) : Gateway × Reply :=
  g.withStore .untouched result fun g _ => g.silently (.ok ())

/-- A call that needs an output place. -/
def needing (g : Gateway) (place : Bool) (go : Gateway × Reply) : Gateway × Reply :=
  if place then go else g.refuse .untouched .noOutput

/-- A release of what a token stands for; the null token is released already. -/
def releasing (g : Gateway) (t : Token) (go : Gateway × Reply) : Gateway × Reply :=
  if t = 0 then g.silently (.ok ()) else go

/-! ## Databases -/

/-- The null token, in an output place for tokens. -/
def noToken : Output := .token 0

/-- Gives the token of a session, which is ended again if there are no tokens left. -/
def register (g : Gateway) (id : SessionId) : Gateway × Reply :=
  match g.databases.insert id with
  | (databases, .ok t) => ({ g with databases := databases }, ⟨.token t, none⟩)
  | (databases, .error fault) =>
    { g with databases := databases, store := g.store.discard id }.refuse noToken (.handle fault)

/-- Closes a session whose token has been taken away.  A session that another token stands
for as well stays open. -/
def letGo (s : Store) (databases : Registry SessionId) (t : Token) (id : SessionId) : Store :=
  let others := databases.matching fun other => other = id
  if others = [] then s.close id
  else s.record ⟨none, none, .closeDeferred t.toNat (others.length + 1)⟩

/-- Closes a database and everything that was made through it. -/
def close (g : Gateway) (t : Token) : Gateway × Reply :=
  match g.databases.remove t with
  | (_, .error fault) => g.refuse .untouched (.handle fault)
  | (databases, .ok id) =>
    let (iterators, cutIterators) := g.iterators.removeWhere fun child => child.owner = t
    let (snapshots, cutSnapshots) := g.snapshots.removeWhere fun child => child.owner = t
    let s :=
      if cutIterators.isEmpty && cutSnapshots.isEmpty then g.store
      else g.store.record
        ⟨none, none, .handlesLeftOpen t.toNat cutIterators.length cutSnapshots.length⟩
    let s := cutIterators.foldl (fun s child => s.dropIterator child.thing) s
    let s := cutSnapshots.foldl (fun s child => s.dropSnapshot child.thing) s
    { g with
      store := letGo s databases t id
      databases := databases
      iterators := iterators
      snapshots := snapshots }.silently (.ok ())

/-! ## Iterators -/

/-- Gives the token of an iterator, which is dropped again if there are no tokens
left. -/
def registerIterator (g : Gateway) (owner : Token) (iterator : IteratorId) :
    Gateway × Reply :=
  match g.iterators.insert ⟨owner, iterator⟩ with
  | (iterators, .ok t) => ({ g with iterators := iterators }, ⟨.token t, none⟩)
  | (iterators, .error fault) =>
    { g with iterators := iterators, store := g.store.dropIterator iterator }.refuse noToken
      (.handle fault)

/-- Moves an iterator. -/
def position (g : Gateway) (t : Token) (m : Move) : Gateway × Reply :=
  g.withFound .untouched (find g.iterators t) fun child =>
    g.onStore (g.store.move child.thing m)

/-- Reads something off the entry that an iterator is on. -/
def readEntry (g : Gateway) (t : Token) (place : Bool) (part : Entry → Bytes) :
    Gateway × Reply :=
  g.needing place <|
    g.withFound (.buffer none) (find g.iterators t) fun child =>
      (g, ⟨.buffer ((g.store.entry? child.thing).map part), none⟩)

/-! ## Snapshots -/

/-- Gives the token of a snapshot, which is dropped again if there are no tokens
left. -/
def registerSnapshot (g : Gateway) (owner : Token) (snapshot : SnapshotId) :
    Gateway × Reply :=
  match g.snapshots.insert ⟨owner, snapshot⟩ with
  | (snapshots, .ok t) => ({ g with snapshots := snapshots }, ⟨.token t, none⟩)
  | (snapshots, .error fault) =>
    { g with snapshots := snapshots, store := g.store.dropSnapshot snapshot }.refuse noToken
      (.handle fault)

/-- Releases a snapshot through the token of its database. -/
def release (g : Gateway) (database snapshot : Token) : Gateway × Reply :=
  g.withFound .untouched (find g.databases database) fun _ =>
    g.withFound .untouched (find g.snapshots snapshot) fun child =>
      if child.owner ≠ database then g.refuse .untouched .foreignSnapshot
      else
        { g with
          snapshots := (g.snapshots.remove snapshot).1
          store := g.store.dropSnapshot child.thing }.silently (.ok ())

/-! ## Batches -/

/-- Changes a batch. -/
def modifyBatch (g : Gateway) (t : Token) (f : Batch → Batch) : Gateway :=
  { g with batches := g.batches.modify t f }

/-- Queues an operation whose byte arguments are read after the batch is found. -/
def queue (g : Gateway) (t : Token) (mutation : Except Failure Mutation) :
    Gateway × Reply :=
  g.withFound .untouched (find g.batches t) fun _ =>
    g.withFound .untouched mutation fun mutation =>
      (g.modifyBatch t (·.push mutation)).silently (.ok ())

/-! ## Log lines -/

/-- The filter for log lines: the directives of the environment if they can be read, and
otherwise everything up to a level. -/
def chosenFilter (directives : Option String) (level : Level) : Filter :=
  (directives.bind Filter.parse?).getD (Filter.upTo level)

/-- Begins to send log lines to the host, which can be asked for once. -/
def install (g : Gateway) (level : Level) : Gateway × Reply :=
  if g.listening then g.refuse .untouched .callbackInstalled
  else
    { g with
      listening := true
      store := { g.store with filter := chosenFilter g.directives level } }.silently (.ok ())

/-! ## All calls -/

/-- A put as it is read from its arguments. -/
def readPut (key value : Slice) : Except Failure Mutation := do
  let key ← key.read .key
  let value ← value.read .value
  pure (.put key value)

/-- A delete as it is read from its argument. -/
def readDelete (key : Slice) : Except Failure Mutation := do
  let key ← key.read .key
  pure (.delete key)

/-- Commits one operation whose byte arguments are read after the database is found. -/
def change (g : Gateway) (t : Token) (sync : Bool) (mutation : Except Failure Mutation) :
    Gateway × Reply :=
  g.withFound .untouched (find g.databases t) fun id =>
    g.withFound .untouched mutation fun mutation =>
      g.onStore (g.store.commit id ⟨[mutation], sync⟩)

/-- What a call does, apart from the words that are kept of its failure. -/
def perform (g : Gateway) : Call → Gateway × Reply
  | .openPath path options place =>
    g.needing place <|
      g.withFound noToken (readPath path) fun text =>
        g.withStore noToken (g.store.openAt text (options.getD {})) register
  | .openMemory options place =>
    g.needing place <|
      g.withStore noToken (g.store.openInMemory (options.getD {})) register
  | .close database => g.releasing database (g.close database)
  | .put database sync key value => g.change database sync (readPut key value)
  | .delete database sync key => g.change database sync (readDelete key)
  | .write database sync batch =>
    g.withFound .untouched (find g.databases database) fun id =>
      g.withFound .untouched (find g.batches batch) fun batch =>
        g.onStore (g.store.write id batch sync)
  | .get database snapshot key place =>
    g.needing place <|
      g.withFound (.buffer none) (find g.databases database) fun id =>
        g.withFound (.buffer none) (g.snapshotFor database snapshot) fun snapshot =>
          g.withFound (.buffer none) (key.read .key) fun key =>
            g.withStore (.buffer none) (g.store.get id snapshot key) fun g value =>
              (g, ⟨.buffer value, none⟩)
  | .property database name place =>
    g.needing place <|
      g.withFound (.buffer none) (find g.databases database) fun id =>
        g.withFound (.buffer none) (name.read .name) fun name =>
          let (s, text) := g.store.property id name
          ({ g with store := s }, ⟨.buffer (text.map utf8), none⟩)
  | .destroy path =>
    g.withFound .untouched (readPath path) fun text => g.onStore (g.store.destroy text)
  | .repair path =>
    g.withFound .untouched (readPath path) fun text => g.onStore (g.store.repair text)
  | .iterate database _ snapshot place =>
    g.needing place <|
      g.withFound noToken (find g.databases database) fun id =>
        g.withFound noToken (g.snapshotFor database snapshot) fun snapshot =>
          g.withStore noToken (g.store.iterate id snapshot) fun g iterator =>
            g.registerIterator database iterator
  | .seek iterator key =>
    g.withFound .untouched (key.read .key) fun key => g.position iterator (.seek key)
  | .first iterator => g.position iterator .first
  | .last iterator => g.position iterator .last
  | .next iterator => g.position iterator .next
  | .prev iterator => g.position iterator .prev
  | .isValid iterator place =>
    g.needing place <|
      g.withFound (.flag false) (find g.iterators iterator) fun child =>
        (g, ⟨.flag (g.store.entry? child.thing).isSome, none⟩)
  | .key iterator place => g.readEntry iterator place (·.1)
  | .value iterator place => g.readEntry iterator place (·.2)
  | .status iterator =>
    g.withFound .untouched (find g.iterators iterator) fun child =>
      g.onStore (g.store, g.store.status child.thing)
  | .freeIterator iterator =>
    g.releasing iterator <|
      g.withFound .untouched (find g.iterators iterator) fun child =>
        { g with
          iterators := (g.iterators.remove iterator).1
          store := g.store.dropIterator child.thing }.silently (.ok ())
  | .snapshot database place =>
    g.needing place <|
      g.withFound noToken (find g.databases database) fun id =>
        g.withStore noToken (g.store.snapshot id) fun g snapshot =>
          g.registerSnapshot database snapshot
  | .releaseSnapshot database snapshot =>
    g.releasing snapshot (g.release database snapshot)
  | .createBatch place =>
    g.needing place <|
      match g.batches.insert .empty with
      | (batches, .ok t) => ({ g with batches := batches }, ⟨.token t, none⟩)
      | (_, .error fault) => g.refuse noToken (.handle fault)
  | .batchPut batch key value => g.queue batch (readPut key value)
  | .batchDelete batch key => g.queue batch (readDelete key)
  | .clearBatch batch =>
    g.withFound .untouched (find g.batches batch) fun _ =>
      (g.modifyBatch batch fun _ => .empty).silently (.ok ())
  | .countBatch batch place =>
    g.needing place <|
      g.withFound .untouched (find g.batches batch) fun batch =>
        (g, ⟨.count batch.size, none⟩)
  | .freeBatch batch =>
    g.releasing batch <|
      g.withFound .untouched (find g.batches batch) fun _ =>
        { g with batches := (g.batches.remove batch).1 }.silently (.ok ())
  | .installCallback level callback =>
    if callback then g.install level else g.refuse .untouched .nullCallback

/-- Answers one call and keeps the words of its failure. -/
def serve (g : Gateway) (call : Call) : Gateway × Reply :=
  let (g, reply) := g.clearError.perform call
  match reply.failure with
  | some failure => (g.setError failure.text, reply)
  | none => (g, reply)

end Gateway

end OrderedStore
