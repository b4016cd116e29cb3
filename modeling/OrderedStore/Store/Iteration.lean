import OrderedStore.Store.Access
import OrderedStore.Walk

/-!
# Iterators of a store

An iterator has a cursor over the view that was pinned when it was made: the view of a
snapshot, or the latest state.  If that view could not be opened the iterator comes
about all the same, degraded by the error, and every positioning fails with it.  An
iterator whose session has been closed is on no entry and cannot be positioned.
-/

set_option autoImplicit false

namespace OrderedStore.Store

/-! ## Coming and going -/

/-- Hands out an iterator over a view, or over the failure to open one. -/
def attach (s : Store) (id : SessionId) (view : Except Error Keyspace) :
    Store × IteratorId :=
  let s := s.modifySession id fun session =>
    { session with liveIterators := session.liveIterators + 1 }
  let iterator := s.iterators.fresh
  match view with
  | .ok view =>
    let (s, lease) := s.lend id view
    ({ s with iterators := s.iterators.insert ⟨id, .ok lease, .unpositioned⟩ }, iterator)
  | .error e =>
    let s := match s.sessions.get? id with
      | some session => s.say session.logger (.iteratorUnavailable e)
      | none => s
    ({ s with iterators := s.iterators.insert ⟨id, .error e, .degraded e⟩ }, iterator)

/-- Makes an iterator of a session. -/
def iterate (s : Store) (id : SessionId) (snapshot : Option SnapshotId) :
    Store × Except Error IteratorId :=
  match s.checkRead id snapshot with
  | .error e => (s, .error e)
  | .ok () =>
    let (s, view) := s.viewAt id snapshot
    let (s, iterator) := s.attach id view
    (s, .ok iterator)

/-- Lets an iterator go. -/
def dropIterator (s : Store) (iterator : IteratorId) : Store :=
  match s.iterators.get? iterator with
  | none => s
  | some row =>
    let s := match row.view with
      | .ok lease => s.giveUp lease
      | .error _ => s
    { s.modifySession row.owner fun session =>
        { session with liveIterators := session.liveIterators - 1 } with
      iterators := s.iterators.erase iterator }

/-! ## Positioning -/

/-- How an iterator of an open session reads: each question is an access to the engine
and is answered from the pinned view. -/
def answer (s : Store) (session : Session) (row : Iterator) : Reader := fun query =>
  match row.view with
  | .error e => .error e
  | .ok lease =>
    match s.pinned lease with
    | .error e => .error e
    | .ok view => (session.engine.access s.volume).map fun _ => view.answer query

/-- How an iterator reads; not at all once its session has been closed. -/
def reader (s : Store) (row : Iterator) : Option Reader :=
  (s.sessions.get? row.owner).map fun session => s.answer session row

/-- Does a move of the iterator access the engine? -/
def reaches (s : Store) (row : Iterator) (m : Move) : Bool :=
  (row.cursor.query? m).isSome &&
    match row.view with
    | .ok lease => (s.pinned lease).toBool
    | .error _ => false

/-- Notes an access to the engine of a session. -/
def touch (s : Store) (id : SessionId) : Store :=
  s.modifySession id fun session => { session with engine := session.engine.accessed s.volume }

/-- Reports that an iterator of an open session has been degraded. -/
def warnDegraded (s : Store) (row : Iterator) (outcome : Except Error Unit) : Store :=
  match outcome, s.sessions.get? row.owner with
  | .error e, some session => s.say session.logger (.iteratorDegraded e)
  | _, _ => s

/-- Moves an iterator. -/
def move (s : Store) (iterator : IteratorId) (m : Move) : Store × Except Error Unit :=
  match s.iterators.get? iterator with
  | none => (s, .error (.closed .iterator))
  | some row =>
    let (cursor, outcome) := row.cursor.move (s.reader row) m
    let touched := if s.reaches row m then s.touch row.owner else s
    let moved := { touched with
      iterators := touched.iterators.modify iterator fun row => { row with cursor := cursor } }
    (moved.warnDegraded row outcome, outcome)

/-! ## Observing -/

/-- The entry an iterator is on. -/
def entry? (s : Store) (iterator : IteratorId) : Option Entry :=
  (s.iterators.get? iterator).bind fun row => row.cursor.entry? (s.isOpen row.owner)

/-- How the last positioning of an iterator went. -/
def status (s : Store) (iterator : IteratorId) : Except Error Unit :=
  match s.iterators.get? iterator with
  | none => .error (.closed .iterator)
  | some row => row.cursor.status (s.isOpen row.owner)

/-- The state of an iterator's cursor. -/
def cursor (s : Store) (iterator : IteratorId) : Cursor :=
  match s.iterators.get? iterator with
  | none => .exhausted
  | some row => row.cursor

/-- The number of entries that an iterator can come by. -/
def extent (s : Store) (iterator : IteratorId) : Nat :=
  match (s.iterators.get? iterator).map Iterator.view with
  | some (.ok lease) => match s.pinned lease with
    | .ok view => view.size
    | .error _ => 0
  | _ => 0

/-! ## Walking -/

/-- A store as the thing that a walk moves, by one of its iterators. -/
def walker (iterator : IteratorId) : Walker Store where
  move m s := s.move iterator m
  entry? s := s.entry? iterator
  status s := s.status iterator
  isUnpositioned s := s.cursor iterator = .unpositioned

/-- Every item of a forward scan. -/
def items (s : Store) (iterator : IteratorId) : Store × List (Except Error Entry) :=
  (walker iterator).items (s.extent iterator) s

/-- So many turns of a forward scan. -/
def polls (s : Store) (iterator : IteratorId) (count : Nat) :
    Store × List (Option (Except Error Entry)) :=
  (walker iterator).polls count .fresh s

/-- The entries of a range. -/
def select (s : Store) (iterator : IteratorId) (range : Range) :
    Store × Except Error (List Entry) :=
  (walker iterator).select range (s.extent iterator) s

end OrderedStore.Store
