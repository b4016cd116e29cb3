import OrderedStore.Gateway.Serve

/-!
# The routines behind calls

A host comes in through one routine a call.  `Gateway.serve` says what a call comes to as
a whole; a routine gets there step by step.  It clears the last error when it is entered,
and every step that fails records a text of its own before the routine is left with a
code, so nothing looks at the end whether code and text belong together.

Besides its calls a host frees buffers, asks for default options and for the last error,
and clears it.  These requests return no code.
-/

set_option autoImplicit false

namespace OrderedStore

/-- A text as a string that ends at its first NUL; there is none for a text with a NUL
inside. -/
def terminated? (text : String) : Option String :=
  if '\x00' ∈ text.toList then none else some text

/-- What a routine works on. -/
structure Frame where
  gateway : Gateway
  /-- What has gone into the output place so far. -/
  output : Output

/-- Steps on a frame, which may leave the routine with a code. -/
abbrev Routine (α : Type) := EStateM ResultCode Frame α

namespace Routine

/-! ## The last error -/

/-- Changes the gateway. -/
def update (change : Gateway → Gateway) : Routine Unit :=
  modify fun frame => { frame with gateway := change frame.gateway }

/-- Sets the last error. -/
def record (text : String) : Routine Unit :=
  update fun g => { g with lastError := terminated? (withoutNul text) }

/-- Unsets the last error. -/
def clear : Routine Unit := update Gateway.clearError

/-- Sets the last error and leaves with a code. -/
def fail {α : Type} (code : ResultCode) (text : String) : Routine α := do
  record text
  throw code

/-- Leaves with the code of an error of the store. -/
def report {α : Type} (e : Error) : Routine α := fail (.ofError e) e.text

/-- Leaves with the code of a handle that could not be used. -/
def reject {α : Type} (fault : HandleFault) : Routine α :=
  fail (.ofHandleFault fault) fault.text

/-! ## Steps -/

/-- Writes to the output place. -/
def emit (output : Output) : Routine Unit := modify fun frame => { frame with output := output }

/-- Goes on only with an output place. -/
def needPlace (place : Bool) : Routine Unit :=
  if place then pure () else fail .nullPointer "null pointer argument"

/-- Writes a buffer to the output place, or releases it. -/
def writeOut (place : Bool) (buffer : Buffer) : Routine Unit :=
  if place then emit (.buffer buffer) else fail .nullPointer "null output buffer"

/-- The bytes of an argument. -/
def borrow (argument : Argument) : Slice → Routine Bytes
  | .null 0 => pure []
  | .null _ =>
    fail .invalidArgument ("null " ++ argument.word ++ " pointer with non-zero length")
  | .bytes contents => pure contents

/-- The text of a path argument. -/
def borrowPath : PathArgument → Routine String
  | none => fail .nullPointer "null path"
  | some bytes =>
    match Utf8.text? (bytes.takeWhile (· ≠ 0)) with
    | some text => pure text
    | none => fail .invalidArgument "invalid UTF-8 in path"

/-- The thing behind a token. -/
def look {α : Type} (registry : Gateway → Registry α) (t : Token) : Routine α := do
  match (registry (← get).gateway).get t with
  | .ok thing => pure thing
  | .error fault => reject fault

/-- Takes the thing behind a token out of its registry. -/
def take {α : Type} (registry : Gateway → Registry α)
    (replace : Gateway → Registry α → Gateway) (t : Token) : Routine α := do
  match (registry (← get).gateway).remove t with
  | (rest, .ok thing) =>
    update fun g => replace g rest
    pure thing
  | (_, .error fault) => reject fault

/-- Puts a thing into a registry and its token into the output place.  A thing for which
there is no token left is dropped. -/
def enroll {α : Type} (registry : Gateway → Registry α)
    (replace : Gateway → Registry α → Gateway) (drop : Store → Store) (thing : α) :
    Routine Unit := do
  match (registry (← get).gateway).insert thing with
  | (all, .ok t) =>
    update fun g => replace g all
    emit (.token t)
  | (all, .error fault) =>
    update fun g => { replace g all with store := drop g.store }
    reject fault

/-- An operation of the store. -/
def onStore {α : Type} (operation : Store → Store × Except Error α) : Routine α := do
  let (s, result) := operation (← get).gateway.store
  update fun g => { g with store := s }
  match result with
  | .ok a => pure a
  | .error e => report e

/-- The snapshot that comes with a call on a database. -/
def snapshotFor (database snapshot : Token) : Routine (Option SnapshotId) := do
  if snapshot = 0 then return none
  let child ← look Gateway.snapshots snapshot
  if child.owner = database then return some child.thing
  else fail .ownershipMismatch "snapshot is not owned by this database"

/-! ## Routines of databases -/

/-- Gives the token of a session. -/
def enrollSession (id : SessionId) : Routine Unit :=
  enroll Gateway.databases (fun g all => { g with databases := all }) (·.discard id) id

def openPath (path : PathArgument) (options : Option Options) (place : Bool) :
    Routine Unit := do
  clear
  needPlace place
  emit Gateway.noToken
  let text ← borrowPath path
  let id ← onStore (·.openAt text (options.getD {}))
  enrollSession id

def openMemory (options : Option Options) (place : Bool) : Routine Unit := do
  clear
  needPlace place
  emit Gateway.noToken
  let id ← onStore (·.openInMemory (options.getD {}))
  enrollSession id

def close (database : Token) : Routine Unit := do
  clear
  if database = 0 then return
  match ((← get).gateway.databases.remove database).2 with
  | .ok _ => update fun g => (g.close database).1
  | .error fault => reject fault

def put (database : Token) (sync : Bool) (key value : Slice) : Routine Unit := do
  clear
  let id ← look Gateway.databases database
  let key ← borrow .key key
  let value ← borrow .value value
  onStore (·.put id key value sync)

def delete (database : Token) (sync : Bool) (key : Slice) : Routine Unit := do
  clear
  let id ← look Gateway.databases database
  let key ← borrow .key key
  onStore (·.delete id key sync)

def write (database : Token) (sync : Bool) (batch : Token) : Routine Unit := do
  clear
  let id ← look Gateway.databases database
  let batch ← look Gateway.batches batch
  onStore (·.write id batch sync)

def read (database snapshot : Token) (key : Slice) (place : Bool) : Routine Unit := do
  clear
  needPlace place
  emit (.buffer none)
  let id ← look Gateway.databases database
  let snapshot ← snapshotFor database snapshot
  let key ← borrow .key key
  let value ← onStore (·.get id snapshot key)
  writeOut place value

def property (database : Token) (name : Slice) (place : Bool) : Routine Unit := do
  clear
  needPlace place
  emit (.buffer none)
  let id ← look Gateway.databases database
  let name ← borrow .name name
  let text ← onStore fun s => ((s.property id name).1, .ok (s.property id name).2)
  writeOut place (text.map utf8)

def destroy (path : PathArgument) : Routine Unit := do
  clear
  let text ← borrowPath path
  onStore (·.destroy text)

def repair (path : PathArgument) : Routine Unit := do
  clear
  let text ← borrowPath path
  onStore (·.repair text)

/-! ## Routines of iterators -/

def iterate (database snapshot : Token) (place : Bool) : Routine Unit := do
  clear
  needPlace place
  emit Gateway.noToken
  let id ← look Gateway.databases database
  let snapshot ← snapshotFor database snapshot
  let iterator ← onStore (·.iterate id snapshot)
  enroll Gateway.iterators (fun g all => { g with iterators := all })
    (·.dropIterator iterator) ⟨database, iterator⟩

/-- Moves an iterator. -/
def position (iterator : Token) (m : Move) : Routine Unit := do
  clear
  let child ← look Gateway.iterators iterator
  onStore (·.move child.thing m)

/-- Seeking reads its key before it comes to the routine of all moves, which clears the
last error once more. -/
def seek (iterator : Token) (key : Slice) : Routine Unit := do
  clear
  let key ← borrow .key key
  position iterator (.seek key)

def isValid (iterator : Token) (place : Bool) : Routine Unit := do
  clear
  needPlace place
  emit (.flag false)
  let child ← look Gateway.iterators iterator
  emit (.flag ((← get).gateway.store.entry? child.thing).isSome)

/-- Reads something off the entry that an iterator is on. -/
def readEntry (iterator : Token) (place : Bool) (part : Entry → Bytes) : Routine Unit := do
  clear
  needPlace place
  emit (.buffer none)
  let child ← look Gateway.iterators iterator
  writeOut place (((← get).gateway.store.entry? child.thing).map part)

def status (iterator : Token) : Routine Unit := do
  clear
  let child ← look Gateway.iterators iterator
  onStore fun s => (s, s.status child.thing)

def freeIterator (iterator : Token) : Routine Unit := do
  clear
  if iterator = 0 then return
  let child ← take Gateway.iterators (fun g rest => { g with iterators := rest }) iterator
  update fun g => { g with store := g.store.dropIterator child.thing }

/-! ## Routines of snapshots -/

def snapshot (database : Token) (place : Bool) : Routine Unit := do
  clear
  needPlace place
  emit Gateway.noToken
  let id ← look Gateway.databases database
  let snapshot ← onStore (·.snapshot id)
  enroll Gateway.snapshots (fun g all => { g with snapshots := all })
    (·.dropSnapshot snapshot) ⟨database, snapshot⟩

/-- Takes a snapshot out of the registry, if it was made through the database.  The code
for a snapshot of another database has no text yet. -/
def withdraw (database snapshot : Token) : Routine (Child SnapshotId) := do
  let child ← look Gateway.snapshots snapshot
  if child.owner ≠ database then throw .ownershipMismatch
  else take Gateway.snapshots (fun g rest => { g with snapshots := rest }) snapshot

def releaseSnapshot (database snapshot : Token) : Routine Unit := do
  clear
  if snapshot = 0 then return
  let _ ← look Gateway.databases database
  let child ← tryCatch (withdraw database snapshot) fun code =>
    if code = .ownershipMismatch then
      fail .ownershipMismatch "snapshot is not owned by this database"
    else throw code
  update fun g => { g with store := g.store.dropSnapshot child.thing }

/-! ## Routines of batches -/

def createBatch (place : Bool) : Routine Unit := do
  clear
  needPlace place
  emit Gateway.noToken
  enroll Gateway.batches (fun g all => { g with batches := all }) id .empty

def batchPut (batch : Token) (key value : Slice) : Routine Unit := do
  clear
  let _ ← look Gateway.batches batch
  let key ← borrow .key key
  let value ← borrow .value value
  update (·.modifyBatch batch (·.push (.put key value)))

def batchDelete (batch : Token) (key : Slice) : Routine Unit := do
  clear
  let _ ← look Gateway.batches batch
  let key ← borrow .key key
  update (·.modifyBatch batch (·.push (.delete key)))

def clearBatch (batch : Token) : Routine Unit := do
  clear
  let _ ← look Gateway.batches batch
  update (·.modifyBatch batch fun _ => .empty)

def countBatch (batch : Token) (place : Bool) : Routine Unit := do
  clear
  needPlace place
  let batch ← look Gateway.batches batch
  emit (.count batch.size)

def freeBatch (batch : Token) : Routine Unit := do
  clear
  if batch = 0 then return
  let _ ← take Gateway.batches (fun g rest => { g with batches := rest }) batch

/-! ## Log lines -/

def installCallback (level : Level) (callback : Bool) : Routine Unit := do
  clear
  if callback then
    if (← get).gateway.listening then
      fail .error
        "log callback already installed: a global default trace dispatcher has already been set"
    else update fun g => (g.install level).1
  else fail .nullPointer "null log callback"

/-! ## All routines -/

/-- The routine of a call. -/
def ofCall : Call → Routine Unit
  | .openPath path options place => openPath path options place
  | .openMemory options place => openMemory options place
  | .close database => close database
  | .put database sync key value => put database sync key value
  | .delete database sync key => delete database sync key
  | .write database sync batch => write database sync batch
  | .get database snapshot key place => read database snapshot key place
  | .property database name place => property database name place
  | .destroy path => destroy path
  | .repair path => repair path
  | .iterate database _ snapshot place => iterate database snapshot place
  | .seek iterator key => seek iterator key
  | .first iterator => position iterator .first
  | .last iterator => position iterator .last
  | .next iterator => position iterator .next
  | .prev iterator => position iterator .prev
  | .isValid iterator place => isValid iterator place
  | .key iterator place => readEntry iterator place (·.1)
  | .value iterator place => readEntry iterator place (·.2)
  | .status iterator => status iterator
  | .freeIterator iterator => freeIterator iterator
  | .snapshot database place => snapshot database place
  | .releaseSnapshot database snapshot => releaseSnapshot database snapshot
  | .createBatch place => createBatch place
  | .batchPut batch key value => batchPut batch key value
  | .batchDelete batch key => batchDelete batch key
  | .clearBatch batch => clearBatch batch
  | .countBatch batch place => countBatch batch place
  | .freeBatch batch => freeBatch batch
  | .installCallback level callback => installCallback level callback

end Routine

/-! ## Requests -/

/-- What a host can ask for. -/
inductive Request where
  | call (call : Call)
  | freeBuffer (buffer : Buffer)
  | defaultOptions
  | lastError
  | clearError
  deriving DecidableEq, Repr

/-- What a host is given for a request. -/
inductive Response where
  | code (code : ResultCode) (output : Output)
  | options (options : Options)
  | text (text : Option String)
  | nothing
  deriving DecidableEq, Repr

namespace Gateway

/-- Runs the routine of a call. -/
def enter (g : Gateway) (call : Call) : Gateway × ResultCode × Output :=
  match Routine.ofCall call ⟨g, .untouched⟩ with
  | .ok () frame => (frame.gateway, .ok, frame.output)
  | .error code frame => (frame.gateway, code, frame.output)

/-- Answers a request. -/
def respond (g : Gateway) : Request → Gateway × Response
  | .call call =>
    let (g, code, output) := g.enter call
    (g, .code code output)
  | .freeBuffer _ => (g, .nothing)
  | .defaultOptions => (g, .options {})
  | .lastError => (g, .text g.lastError)
  | .clearError => (g.clearError, .nothing)

end Gateway

end OrderedStore
