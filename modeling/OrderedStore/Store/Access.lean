import OrderedStore.Store.Lifecycle

/-!
# Writing, reading and snapshots

A write is a list of mutations that becomes visible as a whole or, if the engine refuses
a part of it, not at all.  A read goes to the latest committed state, or to the state
that a snapshot pins; a snapshot serves only the session that took it.  Releasing a
snapshot uses it up, whichever session is asked to do it.
-/

set_option autoImplicit false

namespace OrderedStore

/-- What to commit.  `sync` asks for the write to be on the disk when the call returns;
every reader of the file finds the write there in either case. -/
structure Write where
  mutations : List Mutation
  sync : Bool
  deriving DecidableEq, Repr

namespace Store

/-! ## Writing -/

/-- Commits a write to the latest state of a session. -/
def commit (s : Store) (id : SessionId) (write : Write) : Store × Except Error Unit :=
  match s.sessions.get? id with
  | none => (s, .error (.closed .database))
  | some session =>
    let (v, engine, outcome) :=
      session.engine.commit s.volume write.mutations s.verdicts
    ({ s with volume := v }.modifySession id fun session => { session with engine := engine },
      outcome)

/-- Stores a value under a key. -/
def put (s : Store) (id : SessionId) (key value : Bytes) (sync : Bool) :
    Store × Except Error Unit :=
  s.commit id ⟨[.put key value], sync⟩

/-- Stores a value under a key, or removes the key where there is no value. -/
def putOption (s : Store) (id : SessionId) (key : Bytes) (value : Option Bytes)
    (sync : Bool) : Store × Except Error Unit :=
  s.commit id ⟨[.ofOption key value], sync⟩

/-- Removes a key. -/
def delete (s : Store) (id : SessionId) (key : Bytes) (sync : Bool) :
    Store × Except Error Unit :=
  s.commit id ⟨[.delete key], sync⟩

/-- Applies a batch. -/
def write (s : Store) (id : SessionId) (batch : Batch) (sync : Bool) :
    Store × Except Error Unit :=
  s.commit id ⟨batch.operations, sync⟩

/-! ## Views -/

/-- Opens a view of the latest state of a session. -/
def latest (s : Store) (id : SessionId) : Store × Except Error Keyspace :=
  match s.sessions.get? id with
  | none => (s, .error (.closed .database))
  | some session =>
    (s.modifySession id fun session => { session with engine := session.engine.accessed s.volume },
      session.engine.view s.volume)

/-- Did the session take the snapshot? -/
def owns (s : Store) (id : SessionId) (snapshot : SnapshotId) : Bool :=
  (s.snapshots.get? snapshot).any fun row => row.owner = id

/-- Refuses a snapshot that the session did not take. -/
def checkOwner (s : Store) (id : SessionId) (snapshot : SnapshotId) : Except Error Unit :=
  if s.owns id snapshot then .ok () else .error .snapshotOwnership

/-- The state that a snapshot pins. -/
def snapshotView (s : Store) (snapshot : SnapshotId) : Except Error Keyspace :=
  match s.snapshots.get? snapshot with
  | some row => s.pinned row.lease
  | none => .error (.closed .database)

/-- Opens the view that a read asks for: the one of a snapshot, or else the latest. -/
def viewAt (s : Store) (id : SessionId) :
    Option SnapshotId → Store × Except Error Keyspace
  | some snapshot => (s, s.snapshotView snapshot)
  | none => s.latest id

/-- Refuses a read through a snapshot of another session, or through no session. -/
def checkRead (s : Store) (id : SessionId) (snapshot : Option SnapshotId) :
    Except Error Unit :=
  if s.isOpen id then
    match snapshot with
    | some snapshot => s.checkOwner id snapshot
    | none => .ok ()
  else .error (.closed .database)

/-- The value of a key. -/
def get (s : Store) (id : SessionId) (snapshot : Option SnapshotId) (key : Bytes) :
    Store × Except Error (Option Bytes) :=
  match s.checkRead id snapshot with
  | .error e => (s, .error e)
  | .ok () =>
    let (s, view) := s.viewAt id snapshot
    (s, view.map fun view => view.get? key)

/-! ## Snapshots -/

/-- Pins the latest state of a session. -/
def snapshot (s : Store) (id : SessionId) : Store × Except Error SnapshotId :=
  match s.latest id with
  | (s, .error e) => (s, .error e)
  | (s, .ok view) =>
    let s := s.modifySession id fun session =>
      { session with liveSnapshots := session.liveSnapshots + 1 }
    let (s, lease) := s.lend id view
    ({ s with snapshots := s.snapshots.insert ⟨id, lease⟩ }, .ok s.snapshots.fresh)

/-- Lets a snapshot go. -/
def dropSnapshot (s : Store) (snapshot : SnapshotId) : Store :=
  match s.snapshots.get? snapshot with
  | none => s
  | some row =>
    { (s.giveUp row.lease).modifySession row.owner fun session =>
        { session with liveSnapshots := session.liveSnapshots - 1 } with
      snapshots := s.snapshots.erase snapshot }

/-- Lets a snapshot go on behalf of a session, which should be the one that took it. -/
def releaseSnapshot (s : Store) (id : SessionId) (snapshot : SnapshotId) :
    Store × Except Error Unit :=
  (s.dropSnapshot snapshot, s.checkOwner id snapshot)

/-- Is nothing pinned by the snapshot any more? -/
def isReleased (s : Store) (snapshot : SnapshotId) : Bool :=
  match s.snapshots.get? snapshot with
  | none => true
  | some row => (s.pinned row.lease).toBool = false || !s.isOpen row.owner

end Store

end OrderedStore
