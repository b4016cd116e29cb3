import OrderedStore.Gateway.Serve
import OrderedStore.Proofs.Handle.Lookup
import OrderedStore.Proofs.Store.Run

/-!
# The desk

A `Desk` is a gateway as its host knows it: a store, and for every token the thing that
was built by the call that returned it.  `Desk.order?` says what a call asks for once
its tokens and pointers have been looked at, and gives nothing for a call that is not
acceptable; an `Order` names things of the store and no token but the one under
which something is kept.  `Desk.carryOut` is what the store does with an order and what
the host is told.

`Desk.note` keeps a desk from the calls and their replies alone, so a desk knows nothing
of slots and generations: a new token is whatever the reply says.
-/

set_option autoImplicit false

namespace OrderedStore

/-- The things that were made through the token of a database, in the order of their own
tokens. -/
def Ledger.madeThrough {α : Type} (l : Ledger (Child α)) (owner : Token) : List α :=
  (l.inOrder.filter fun entry => entry.2.owner = owner).map fun entry => entry.2.thing

/-- A store and what the tokens of a host stand for. -/
structure Desk where
  store : Store
  databases : Ledger SessionId
  iterators : Ledger (Child IteratorId)
  snapshots : Ledger (Child SnapshotId)
  batches : Ledger Batch
  directives : Option String
  listening : Bool

/-- What an acceptable call asks for. -/
inductive Order where
  /-- An operation of the store.  What it builds belongs to the database of a token. -/
  | act (owner : Token) (action : Store.Action)
  | close (database : Token) (id : SessionId)
  | freeIterator (t : Token) (iterator : IteratorId)
  | freeSnapshot (t : Token) (snapshot : SnapshotId)
  | isValid (iterator : IteratorId)
  /-- A part of the entry that an iterator is on. -/
  | read (iterator : IteratorId) (part : Entry → Bytes)
  | status (iterator : IteratorId)
  | createBatch
  | setBatch (t : Token) (batch : Batch)
  | countBatch (batch : Batch)
  | freeBatch (t : Token)
  | listen (filter : Filter)

/-- The kind of thing that an order builds. -/
def Order.kind? : Order → Option HandleKind
  | .act _ (.openAt ..) | .act _ (.openMemory _) => some .database
  | .act _ (.snapshot _) => some .snapshot
  | .act _ (.iterate ..) => some .iterator
  | .createBatch => some .batch
  | _ => none

/-- The token that a reply gives to the host. -/
def Reply.given (reply : Reply) : Option Token :=
  match reply.output, reply.failure with
  | .token t, none => some t
  | _, _ => none

/-- The call releases the null token, which is nothing to do. -/
def Call.isIdle : Call → Bool
  | .close t | .freeIterator t | .releaseSnapshot _ t | .freeBatch t => t = 0
  | _ => false

namespace Desk

/-- The desk of a store with nothing open. -/
def ofStore (s : Store) (directives : Option String) : Desk where
  store := s
  databases := .empty
  iterators := .empty
  snapshots := .empty
  batches := .empty
  directives := directives
  listening := false

/-- The tokens of one kind that were handed out. -/
def issued (d : Desk) : HandleKind → List Token
  | .database => d.databases.issued
  | .iterator => d.iterators.issued
  | .snapshot => d.snapshots.issued
  | .batch => d.batches.issued

/-! ## What calls ask for -/

/-- The snapshot that a call reads through: none for the null token, and otherwise one that
was taken through the same database. -/
def snapshotFor? (d : Desk) (database snapshot : Token) : Option (Option SnapshotId) :=
  if snapshot = 0 then some none
  else (d.snapshots.find? snapshot).bind fun child =>
    if child.owner = database then some (some child.thing) else none

/-- A move of the iterator of a token. -/
def moving? (d : Desk) (t : Token) (m : Move) : Option Order :=
  (d.iterators.find? t).bind fun child => some (.act child.owner (.move child.thing m))

/-- One more operation in the batch of a token. -/
def queueing? (d : Desk) (t : Token) (mutation : Except Failure Mutation) : Option Order :=
  (d.batches.find? t).bind fun batch =>
    mutation.toOption.bind fun mutation => some (.setBatch t (batch.push mutation))

/-- A part of the entry that the iterator of a token is on. -/
def reading? (d : Desk) (t : Token) (part : Entry → Bytes) : Option Order :=
  (d.iterators.find? t).bind fun child => some (.read child.thing part)

/-- What a call asks for, if its tokens stand for things of the right kinds, its snapshot
belongs to its database and its pointers can be read and written. -/
def order? (d : Desk) : Call → Option Order
  | .openPath path options true =>
    (Gateway.readPath path).toOption.bind fun text =>
      some (.act 0 (.openAt text (options.getD {})))
  | .openMemory options true => some (.act 0 (.openMemory (options.getD {})))
  | .close database =>
    (d.databases.find? database).bind fun id => some (.close database id)
  | .put database sync key value =>
    (d.databases.find? database).bind fun id =>
      (key.read .key).toOption.bind fun key =>
        (value.read .value).toOption.bind fun value =>
          some (.act database (.put id key value sync))
  | .delete database sync key =>
    (d.databases.find? database).bind fun id =>
      (key.read .key).toOption.bind fun key => some (.act database (.delete id key sync))
  | .write database sync batch =>
    (d.databases.find? database).bind fun id =>
      (d.batches.find? batch).bind fun batch => some (.act database (.write id batch sync))
  | .get database snapshot key true =>
    (d.databases.find? database).bind fun id =>
      (d.snapshotFor? database snapshot).bind fun snapshot =>
        (key.read .key).toOption.bind fun key => some (.act database (.get id snapshot key))
  | .property database name true =>
    (d.databases.find? database).bind fun id =>
      (name.read .name).toOption.bind fun name => some (.act database (.property id name))
  | .destroy path =>
    (Gateway.readPath path).toOption.bind fun text => some (.act 0 (.destroy text))
  | .repair path =>
    (Gateway.readPath path).toOption.bind fun text => some (.act 0 (.repair text))
  | .iterate database _ snapshot true =>
    (d.databases.find? database).bind fun id =>
      (d.snapshotFor? database snapshot).bind fun snapshot =>
        some (.act database (.iterate id snapshot))
  | .seek iterator key =>
    (key.read .key).toOption.bind fun key => d.moving? iterator (.seek key)
  | .first iterator => d.moving? iterator .first
  | .last iterator => d.moving? iterator .last
  | .next iterator => d.moving? iterator .next
  | .prev iterator => d.moving? iterator .prev
  | .isValid iterator true =>
    (d.iterators.find? iterator).bind fun child => some (.isValid child.thing)
  | .key iterator true => d.reading? iterator (·.1)
  | .value iterator true => d.reading? iterator (·.2)
  | .status iterator =>
    (d.iterators.find? iterator).bind fun child => some (.status child.thing)
  | .freeIterator iterator =>
    (d.iterators.find? iterator).bind fun child => some (.freeIterator iterator child.thing)
  | .snapshot database true =>
    (d.databases.find? database).bind fun id => some (.act database (.snapshot id))
  | .releaseSnapshot database snapshot =>
    (d.databases.find? database).bind fun _ =>
      (d.snapshots.find? snapshot).bind fun child =>
        if child.owner = database then some (.freeSnapshot snapshot child.thing) else none
  | .createBatch true => some .createBatch
  | .batchPut batch key value => d.queueing? batch (Gateway.readPut key value)
  | .batchDelete batch key => d.queueing? batch (Gateway.readDelete key)
  | .clearBatch batch => (d.batches.find? batch).bind fun _ => some (.setBatch batch .empty)
  | .countBatch batch true => (d.batches.find? batch).bind fun batch => some (.countBatch batch)
  | .freeBatch batch => (d.batches.find? batch).bind fun _ => some (.freeBatch batch)
  | .installCallback level true =>
    if d.listening then none else some (.listen (Gateway.chosenFilter d.directives level))
  | _ => none

/-! ## Carrying out orders -/

/-- Gives the token of a new thing to the host, if there is one. -/
def handOut (kind : HandleKind) (given : Option Token) (kept : Token → Desk) (dropped : Desk) :
    Desk × Reply :=
  match given with
  | some t => (kept t, ⟨.token t, none⟩)
  | none => (dropped, ⟨Gateway.noToken, some (.handle (.exhausted kind))⟩)

/-- What the host is told of a new thing. -/
def handedOut (kind : HandleKind) (given : Option Token) : Reply :=
  given.elim ⟨Gateway.noToken, some (.handle (.exhausted kind))⟩ fun t => ⟨.token t, none⟩

/-- Passes on what the store has answered.  A new thing is kept under its token, and let go
again if there is none. -/
def settle (d : Desk) (owner : Token) (given : Option Token) : Store.Answer → Desk × Reply
  | .opened (.ok id) =>
    handOut .database given (fun t => { d with databases := d.databases.give t id })
      { d with store := d.store.discard id }
  | .snapshot (.ok snapshot) =>
    handOut .snapshot given
      (fun t => { d with snapshots := d.snapshots.give t ⟨owner, snapshot⟩ })
      { d with store := d.store.dropSnapshot snapshot }
  | .iterator (.ok iterator) =>
    handOut .iterator given
      (fun t => { d with iterators := d.iterators.give t ⟨owner, iterator⟩ })
      { d with store := d.store.dropIterator iterator }
  | .opened (.error e) | .snapshot (.error e) | .iterator (.error e) =>
    (d, ⟨Gateway.noToken, some (.store e)⟩)
  | .done (.ok ()) => (d, ⟨.untouched, none⟩)
  | .done (.error e) => (d, ⟨.untouched, some (.store e)⟩)
  | .value (.ok value) => (d, ⟨.buffer value, none⟩)
  | .value (.error e) => (d, ⟨.buffer none, some (.store e)⟩)
  | .text text => (d, ⟨.buffer (text.map utf8), none⟩)

/-- What is reported of things that are still there when their database is closed. -/
def leftOpen (d : Desk) (database : Token) : List Store.Action :=
  let iterators := d.iterators.madeThrough database
  let snapshots := d.snapshots.madeThrough database
  if iterators.isEmpty && snapshots.isEmpty then []
  else [.report ⟨none, none, .handlesLeftOpen database.toNat iterators.length snapshots.length⟩]

/-- What the store does before it closes a database: everything that was made through its
token is let go. -/
def emptying (d : Desk) (database : Token) : List Store.Action :=
  d.leftOpen database ++ (d.iterators.madeThrough database).map .dropIterator
    ++ (d.snapshots.madeThrough database).map .dropSnapshot

/-- Carries out an order.  `given` is the token for what it builds; there is none if all
tokens of the kind are taken. -/
def carryOut (d : Desk) (given : Option Token) : Order → Desk × Reply
  | .act owner action =>
    let (s, answer) := d.store.perform action
    { d with store := s }.settle owner given answer
  | .close database id =>
    ({ d with
      store := (d.store.run (d.emptying database)).close id
      databases := d.databases.strike fun t _ => t = database
      iterators := d.iterators.strike fun _ child => child.owner = database
      snapshots := d.snapshots.strike fun _ child => child.owner = database },
      ⟨.untouched, none⟩)
  | .freeIterator t iterator =>
    ({ d with
      store := d.store.dropIterator iterator
      iterators := d.iterators.strike fun u _ => u = t }, ⟨.untouched, none⟩)
  | .freeSnapshot t snapshot =>
    ({ d with
      store := d.store.dropSnapshot snapshot
      snapshots := d.snapshots.strike fun u _ => u = t }, ⟨.untouched, none⟩)
  | .isValid iterator => (d, ⟨.flag (d.store.entry? iterator).isSome, none⟩)
  | .read iterator part => (d, ⟨.buffer ((d.store.entry? iterator).map part), none⟩)
  | .status iterator => d.settle 0 none (.done (d.store.status iterator))
  | .createBatch =>
    handOut .batch given (fun t => { d with batches := d.batches.give t .empty }) d
  | .setBatch t batch => ({ d with batches := d.batches.alter t batch }, ⟨.untouched, none⟩)
  | .countBatch batch => (d, ⟨.count batch.size, none⟩)
  | .freeBatch t =>
    ({ d with batches := d.batches.strike fun u _ => u = t }, ⟨.untouched, none⟩)
  | .listen filter =>
    ({ d with listening := true, store := { d.store with filter := filter } },
      ⟨.untouched, none⟩)

/-- A token for what an order builds has never been handed out. -/
def Fresh (d : Desk) (order : Order) (given : Option Token) : Prop :=
  ∀ kind t, order.kind? = some kind → given = some t → t ≠ 0 ∧ t ∉ d.issued kind

/-- What the database of a token has, as it is found when it is opened. -/
def found (d : Desk) (given : Option Token) : Keyspace :=
  (given.bind fun t => (d.databases.find? t).bind d.store.roster.committed?).getD .empty

/-- Keeps a desk by a call and its reply. -/
def note (d : Desk) (call : Call) (reply : Reply) : Desk :=
  match d.order? call with
  | some order => (d.carryOut reply.given order).1
  | none => d

end Desk

end OrderedStore
