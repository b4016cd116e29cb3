import OrderedStore.Cursor
import OrderedStore.Engine
import OrderedStore.Log.Filter

/-!
# The store: sessions and what they hand out

A store holds every open session with the snapshots and iterators that sessions have
handed out.  All of them have identities that are never given to another thing, so a
child that outlives its session finds no session any more, also after the
database has been opened again.

A child reads through a lease of its own.  Closing a session revokes the leases of
its children, so that no view keeps engine state alive; what is reported on the
way is kept in the journal.
-/

set_option autoImplicit false

namespace OrderedStore

/-- A view on loan to one child; revoked once it is `none`. -/
structure Lease where
  view : Option Keyspace
  deriving DecidableEq

namespace Lease

/-- A lease of a view. -/
def of (view : Keyspace) : Lease := ⟨some view⟩

/-- A lease whose view has been taken away. -/
def revoked : Lease := ⟨none⟩

/-- Has the view been taken away? -/
def isRevoked (lease : Lease) : Bool := lease.view.isNone

/-- The view of a lease. -/
def read (lease : Lease) : Except Error Keyspace :=
  match lease.view with
  | some view => .ok view
  | none => .error (.closed .database)

end Lease

/-- The reporter of one session. -/
structure Logger where
  session : SessionId
  /-- The name of the database. -/
  name : String
  /-- Does the span with the name stand around what is reported? -/
  spanned : Bool
  deriving DecidableEq, Repr

/-- An open database. -/
structure Session where
  logger : Logger
  options : Options
  engine : Engine
  liveSnapshots : Int
  liveIterators : Int
  leases : List LeaseId
  deriving DecidableEq

/-- A pinned state of a database. -/
structure Snapshot where
  owner : SessionId
  lease : LeaseId
  deriving DecidableEq, Repr

/-- A cursor with the view it reads, or the reason why it has none. -/
structure Iterator where
  owner : SessionId
  view : Except Error LeaseId
  cursor : Cursor

/-- Open sessions, their children, the file system, the engine's verdicts and the journal. -/
structure Store where
  volume : Volume
  /-- What the engine grants at present. -/
  verdicts : Verdicts
  sessions : Table .session Session
  leases : Table .lease Lease
  snapshots : Table .snapshot Snapshot
  iterators : Table .iterator Iterator
  /-- The events that the host wants. -/
  filter : Filter
  /-- All events, oldest first, wanted or not. -/
  journal : List Event

namespace Store

/-- A store with nothing open on a file system, whose engine refuses nothing yet. -/
def ofVolume (v : Volume) : Store :=
  ⟨v, .granting, .empty, .empty, .empty, .empty, Filter.silent, []⟩

/-- A store with nothing open on an empty file system. -/
def empty : Store := ofVolume .empty

instance : Inhabited Store := ⟨empty⟩

/-- Is the session open? -/
def isOpen (s : Store) (id : SessionId) : Bool := (s.sessions.get? id).isSome

/-- Changes a session. -/
def modifySession (s : Store) (id : SessionId) (f : Session → Session) : Store :=
  { s with sessions := s.sessions.modify id f }

/-! ## Reporting -/

/-- The logger of a session that is about to open.  The host's filter decides whether
the span is there. -/
def logger (s : Store) (name : String) : Logger :=
  ⟨s.sessions.fresh, name, s.filter.opensSpans⟩

/-- Puts an event into the journal. -/
def record (s : Store) (event : Event) : Store :=
  { s with journal := s.journal ++ [event] }

/-- Reports in the words and the span of a session's logger. -/
def say (s : Store) (logger : Logger) (notice : Notice) : Store :=
  s.record ⟨some logger.session, if logger.spanned then some logger.name else none, notice⟩

/-- Reports on a session outside of its span. -/
def note (s : Store) (logger : Logger) (notice : Notice) : Store :=
  s.record ⟨some logger.session, none, notice⟩

/-! ## Leases -/

/-- The view of a lease. -/
def pinned (s : Store) (id : LeaseId) : Except Error Keyspace :=
  ((s.leases.get? id).getD .revoked).read

/-- Is the lease still held by a child? -/
def isHeld (s : Store) (id : LeaseId) : Bool := (s.leases.get? id).isSome

/-- Lends a view to a new child of a session.  The session forgets leases that nobody
holds any more. -/
def lend (s : Store) (id : SessionId) (view : Keyspace) : Store × LeaseId :=
  let lease := s.leases.fresh
  let held := s.isHeld
  ({ s with leases := s.leases.insert (.of view) }.modifySession id fun session =>
    { session with leases := session.leases.filter held ++ [lease] }, lease)

/-- Takes the view of a lease away. -/
def revoke (s : Store) (id : LeaseId) : Store :=
  { s with leases := s.leases.modify id fun _ => .revoked }

/-- Gives a lease up. -/
def giveUp (s : Store) (id : LeaseId) : Store := { s with leases := s.leases.erase id }

end Store

end OrderedStore
