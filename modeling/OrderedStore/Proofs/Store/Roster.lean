import OrderedStore.Proofs.Table
import OrderedStore.Store.Property

/-!
# Who holds what in a store

The `Roster` of a store has its sessions, leases, snapshots and iterators, without the
file system and the journal.  The functions of this module are the ways in which a
roster changes, and every operation of a store is one of them or a few in a row; the
operations themselves are related to them by equations in the name of `roster`.

Snapshots and iterators are both borrowers: they belong to a session and read through
a lease of their own, if they have one.
-/

set_option autoImplicit false

namespace OrderedStore

/-- The sessions of a store and what they have handed out. -/
structure Roster where
  sessions : Table .session Session
  leases : Table .lease Lease
  snapshots : Table .snapshot Snapshot
  iterators : Table .iterator Iterator

/-- A child of a session, which may hold a lease. -/
inductive Borrower where
  | snapshot (id : SnapshotId)
  | iterator (id : IteratorId)
  deriving DecidableEq

namespace Roster

/-! ## Observing -/

/-- Is the session open? -/
def isOpen (r : Roster) (id : SessionId) : Bool := (r.sessions.get? id).isSome

/-- The session that a borrower belongs to. -/
def owner? (r : Roster) : Borrower → Option SessionId
  | .snapshot id => (r.snapshots.get? id).map Snapshot.owner
  | .iterator id => (r.iterators.get? id).map Iterator.owner

/-- The lease that a borrower holds. -/
def lease? (r : Roster) : Borrower → Option LeaseId
  | .snapshot id => (r.snapshots.get? id).map Snapshot.lease
  | .iterator id => (r.iterators.get? id).bind fun row => row.view.toOption

/-- Is the lease held by a borrower? -/
def isHeld (r : Roster) (lease : LeaseId) : Bool := (r.leases.get? lease).isSome

/-- The view of a lease. -/
def view? (r : Roster) (lease : LeaseId) : Option Keyspace := (r.leases.get? lease).bind Lease.view

/-- The view that a borrower reads through. -/
def viewOf (r : Roster) (b : Borrower) : Option Keyspace := (r.lease? b).bind r.view?

/-- The leases that an open session keeps a list of. -/
def leasesOf (r : Roster) (id : SessionId) : Option (List LeaseId) :=
  (r.sessions.get? id).map Session.leases

/-- The engine of an open session. -/
def engine? (r : Roster) (id : SessionId) : Option Engine :=
  (r.sessions.get? id).map Session.engine

section Session

variable {r : Roster} {id : SessionId} {session : Session}

theorem leasesOf_of_session (h : r.sessions.get? id = some session) :
    r.leasesOf id = some session.leases := by
  rw [leasesOf, h, Option.map_some]

theorem engine?_of_session (h : r.sessions.get? id = some session) :
    r.engine? id = some session.engine := by
  rw [engine?, h, Option.map_some]

end Session

/-- The latest committed state of an open session. -/
def committed? (r : Roster) (id : SessionId) : Option Keyspace := (r.engine? id).map Engine.latest

/-- Where the cursor of an iterator stands. -/
def cursor? (r : Roster) (id : IteratorId) : Option Cursor :=
  (r.iterators.get? id).map Iterator.cursor

/-! ## Changing -/

/-- Changes a session. -/
def modifySession (r : Roster) (id : SessionId) (f : Session → Session) : Roster :=
  { r with sessions := r.sessions.modify id f }

/-- Changes the engine of a session. -/
def modifyEngine (r : Roster) (id : SessionId) (f : Engine → Engine) : Roster :=
  r.modifySession id fun session => { session with engine := f session.engine }

/-- Uses up the identity of a session that did not come about. -/
def skipSession (r : Roster) : Roster := { r with sessions := r.sessions.skip }

/-- Adds a session. -/
def openSession (r : Roster) (session : Session) : Roster :=
  { r with sessions := r.sessions.insert session }

/-- Lends a view to a new child of a session. -/
def lend (r : Roster) (id : SessionId) (view : Keyspace) : Roster :=
  { r with leases := r.leases.insert (.of view) }.modifySession id fun session =>
    { session with leases := session.leases.filter r.isHeld ++ [r.leases.fresh] }

/-- Gives a lease up. -/
def giveUp (r : Roster) (lease : LeaseId) : Roster := { r with leases := r.leases.erase lease }

/-- Adds a snapshot of a view. -/
def addSnapshot (r : Roster) (id : SessionId) (view : Keyspace) : Roster :=
  let counted := r.modifySession id fun session =>
    { session with liveSnapshots := session.liveSnapshots + 1 }
  { counted.lend id view with snapshots := r.snapshots.insert ⟨id, r.leases.fresh⟩ }

/-- Adds an iterator over a view, or over the failure to open one. -/
def addIterator (r : Roster) (id : SessionId) (view : Except Error Keyspace) : Roster :=
  let counted := r.modifySession id fun session =>
    { session with liveIterators := session.liveIterators + 1 }
  match view with
  | .ok view =>
    { counted.lend id view with
      iterators := r.iterators.insert ⟨id, .ok r.leases.fresh, .unpositioned⟩ }
  | .error e => { counted with iterators := r.iterators.insert ⟨id, .error e, .degraded e⟩ }

/-- Removes a snapshot. -/
def dropSnapshot (r : Roster) (snapshot : SnapshotId) : Roster :=
  match r.snapshots.get? snapshot with
  | none => r
  | some row =>
    { (r.giveUp row.lease).modifySession row.owner fun session =>
        { session with liveSnapshots := session.liveSnapshots - 1 } with
      snapshots := r.snapshots.erase snapshot }

/-- Removes an iterator. -/
def dropIterator (r : Roster) (iterator : IteratorId) : Roster :=
  match r.iterators.get? iterator with
  | none => r
  | some row =>
    let released := match row.view with
      | .ok lease => r.giveUp lease
      | .error _ => r
    { released.modifySession row.owner fun session =>
        { session with liveIterators := session.liveIterators - 1 } with
      iterators := r.iterators.erase iterator }

/-- Moves the cursor of an iterator. -/
def setCursor (r : Roster) (iterator : IteratorId) (cursor : Cursor) : Roster :=
  { r with iterators := r.iterators.modify iterator fun row => { row with cursor := cursor } }

/-- Takes the views of leases away. -/
def revokeAll (r : Roster) (leases : List LeaseId) : Roster :=
  { r with leases := leases.foldl (fun t lease => t.modify lease fun _ => .revoked) r.leases }

/-- Removes a session, whose leases are revoked. -/
def endSession (r : Roster) (id : SessionId) : Roster :=
  match r.sessions.get? id with
  | none => r
  | some session =>
    { r.revokeAll (session.leases.filter r.isHeld) with sessions := r.sessions.erase id }

end Roster

namespace Store

/-- The sessions of a store and what they have handed out. -/
def roster (s : Store) : Roster := ⟨s.sessions, s.leases, s.snapshots, s.iterators⟩

end Store

end OrderedStore
