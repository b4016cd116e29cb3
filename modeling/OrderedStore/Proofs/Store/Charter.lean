import OrderedStore.Proofs.Store.Run

/-!
# What a session is opened with

A session keeps its logger, its options and the place of its engine until it ends: they are
its charter.  Only opening and closing change which sessions there are with which charters;
for every other operation there is a lemma here that says that the sessions continue.
-/

set_option autoImplicit false

namespace OrderedStore

/-- What a session has been opened with, which it keeps until it ends. -/
structure Charter where
  logger : Logger
  options : Options
  /-- Is there no file behind the engine? -/
  memory : Bool

/-- What the session has been opened with. -/
def Session.charter (session : Session) : Charter :=
  ⟨session.logger, session.options, session.engine.home.isNone⟩

namespace Roster

/-- What an open session has been opened with. -/
def charter? (r : Roster) (id : SessionId) : Option Charter :=
  (r.sessions.get? id).map Session.charter

/-- The same sessions are open, with the same charters. -/
structure Continues (r r' : Roster) : Prop where
  next : r'.sessions.next = r.sessions.next
  charter : ∀ id, r'.charter? id = r.charter? id

/-- Every open session reports under its own identity. -/
def Signed (r : Roster) : Prop :=
  ∀ ⦃id : SessionId⦄ ⦃charter : Charter⦄, r.charter? id = some charter → charter.logger.session = id

variable {r r' r'' : Roster} {id : SessionId}

theorem charter?_of_session {session : Session} (h : r.sessions.get? id = some session) :
    r.charter? id = some session.charter := by
  rw [charter?, h]
  rfl

theorem isOpen_eq_isSome_charter? (r : Roster) (id : SessionId) :
    r.isOpen id = (r.charter? id).isSome := by
  unfold isOpen charter?
  rw [Option.isSome_map]

theorem isOpen_of_charter? {charter : Charter} (h : r.charter? id = some charter) :
    r.isOpen id = true := by
  rw [isOpen_eq_isSome_charter?, h]
  rfl

theorem Continues.refl (r : Roster) : r.Continues r := ⟨rfl, fun _ => rfl⟩

theorem Continues.trans (h : r.Continues r') (h' : r'.Continues r'') : r.Continues r'' where
  next := h'.next.trans h.next
  charter id := (h'.charter id).trans (h.charter id)

theorem Continues.of_sessions (h : r'.sessions = r.sessions) : r.Continues r' where
  next := congrArg Table.next h
  charter id := by rw [charter?, h, charter?]

theorem Continues.isOpen (h : r.Continues r') (id : SessionId) : r'.isOpen id = r.isOpen id := by
  rw [isOpen_eq_isSome_charter?, h.charter, isOpen_eq_isSome_charter?]

theorem Signed.congr (h : r.Signed) (hcontinues : r.Continues r') : r'.Signed :=
  fun id _ hcharter => h ((hcontinues.charter id).symm.trans hcharter)

theorem continues_modifySession {f : Session → Session}
    (h : ∀ session, r.sessions.get? id = some session → (f session).charter = session.charter) :
    r.Continues (r.modifySession id f) where
  next := rfl
  charter id' := by
    unfold charter? modifySession
    rw [Table.get?_modify]
    split
    · rename_i heq
      rw [heq, Option.map_map]
      exact Option.map_congr h
    · rfl

theorem continues_modifyEngine {f : Engine → Engine}
    (h : ∀ session, r.sessions.get? id = some session →
      (f session.engine).home = session.engine.home) :
    r.Continues (r.modifyEngine id f) :=
  continues_modifySession fun session hsession => by
    rw [Session.charter, h session hsession, Session.charter]

theorem continues_accessed (v : Volume) (id : SessionId) :
    r.Continues (r.modifyEngine id (Engine.accessed v)) :=
  continues_modifyEngine fun _ _ => rfl

theorem continues_lend (id : SessionId) (view : Keyspace) : r.Continues (r.lend id view) := by
  have hlent : r.Continues { r with leases := r.leases.insert (.of view) } := .of_sessions rfl
  exact hlent.trans (continues_modifySession fun _ _ => rfl)

theorem continues_addSnapshot (id : SessionId) (view : Keyspace) :
    r.Continues (r.addSnapshot id view) := by
  have hcounted : r.Continues (r.modifySession id fun session =>
      { session with liveSnapshots := session.liveSnapshots + 1 }) :=
    continues_modifySession fun _ _ => rfl
  exact (hcounted.trans (continues_lend id view)).trans (.of_sessions rfl)

theorem continues_addIterator (id : SessionId) (view : Except Error Keyspace) :
    r.Continues (r.addIterator id view) := by
  have hcounted : r.Continues (r.modifySession id fun session =>
      { session with liveIterators := session.liveIterators + 1 }) :=
    continues_modifySession fun _ _ => rfl
  cases view with
  | ok view => exact (hcounted.trans (continues_lend id view)).trans (.of_sessions rfl)
  | error e => exact hcounted.trans (.of_sessions rfl)

theorem continues_dropSnapshot (snapshot : SnapshotId) : r.Continues (r.dropSnapshot snapshot) := by
  unfold dropSnapshot
  split
  · exact .refl r
  · rename_i row _
    have hcounted : r.Continues (r.modifySession row.owner fun session =>
        { session with liveSnapshots := session.liveSnapshots - 1 }) :=
      continues_modifySession fun _ _ => rfl
    exact hcounted.trans (.of_sessions rfl)

theorem continues_dropIterator (iterator : IteratorId) : r.Continues (r.dropIterator iterator) := by
  unfold dropIterator
  split
  · exact .refl r
  · rename_i row _
    have hcounted : r.Continues (r.modifySession row.owner fun session =>
        { session with liveIterators := session.liveIterators - 1 }) :=
      continues_modifySession fun _ _ => rfl
    cases row.view <;> exact hcounted.trans (.of_sessions rfl)

theorem continues_setCursor (iterator : IteratorId) (cursor : Cursor) :
    r.Continues (r.setCursor iterator cursor) := .of_sessions rfl

/-! ## Sessions that come and go -/

theorem charter?_openSession (session : Session) (id : SessionId) :
    (r.openSession session).charter? id =
      if id = r.sessions.fresh then some session.charter else r.charter? id := by
  unfold charter? openSession
  rw [Table.get?_insert]
  split <;> rfl

theorem charter?_endSession (id id' : SessionId) :
    (r.endSession id).charter? id' = if id' = id then none else r.charter? id' := by
  unfold charter?
  rw [get?_sessions_endSession]
  split <;> rfl

end Roster

namespace Engine

/-- A database on a disk has its engine in a file. -/
theorem isNone_home_of_openIn {v v' : Volume} {directory : Directory} {options : Options}
    {verdicts : Verdicts} {rebuilt : Bool} {engine : Engine}
    (h : openIn v directory options verdicts = (v', rebuilt, .ok engine)) :
    engine.home.isNone = false := by
  obtain ⟨w, opened, found, keyspace, hdata, rfl, _⟩ := openChecked_ok (openIn_ok h)
  obtain ⟨_, data, m, _, _, _, _, _, rfl, _⟩ := openData_ok hdata
  rfl

end Engine

namespace Store

variable {s : Store} {id : SessionId}

/-! ## Operations that change no charter -/

theorem continues_commit (s : Store) (id : SessionId) (write : Write) :
    s.roster.Continues (s.commit id write).1.roster := by
  cases hsession : s.sessions.get? id with
  | none =>
    rw [commit_of_closed hsession]
    exact .refl _
  | some session =>
    rw [(commit_of_open hsession write).1]
    refine Roster.continues_modifyEngine fun other hother => ?_
    obtain rfl : session = other := Option.some.inj (hsession.symm.trans hother)
    exact Engine.home_commit s.volume session.engine write.mutations s.verdicts

theorem continues_latest (s : Store) (id : SessionId) :
    s.roster.Continues (s.latest id).1.roster := by
  rw [roster_latest]
  exact Roster.continues_accessed s.volume id

theorem continues_viewAt (s : Store) (id : SessionId) (snapshot : Option SnapshotId) :
    s.roster.Continues (s.viewAt id snapshot).1.roster := by
  cases snapshot with
  | none => exact continues_latest s id
  | some snapshot => exact .refl _

theorem continues_get (s : Store) (id : SessionId) (snapshot : Option SnapshotId) (key : Bytes) :
    s.roster.Continues (s.get id snapshot key).1.roster := by
  cases hread : s.checkRead id snapshot with
  | error e =>
    rw [get_of_error hread]
    exact .refl _
  | ok _ =>
    rw [get_of_ok hread]
    exact continues_viewAt s id snapshot

theorem continues_property (s : Store) (id : SessionId) (name : Bytes) :
    s.roster.Continues (s.property id name).1.roster := by
  rcases (property_spec s id name).1 with hsame | hlatest
  · rw [hsame]
    exact .refl _
  · rw [hlatest]
    exact continues_latest s id

theorem continues_snapshot (s : Store) (id : SessionId) :
    s.roster.Continues (s.snapshot id).1.roster := by
  cases hview : (s.latest id).2 with
  | error e =>
    rw [snapshot_of_error hview]
    exact continues_latest s id
  | ok view =>
    rw [(snapshot_of_ok hview).1]
    exact (continues_latest s id).trans (Roster.continues_addSnapshot id view)

theorem continues_iterate (s : Store) (id : SessionId) (snapshot : Option SnapshotId) :
    s.roster.Continues (s.iterate id snapshot).1.roster := by
  cases hread : s.checkRead id snapshot with
  | error e =>
    rw [iterate_of_error hread]
    exact .refl _
  | ok _ =>
    rw [(iterate_of_ok hread).1]
    exact (continues_viewAt s id snapshot).trans (Roster.continues_addIterator id _)

theorem continues_move (s : Store) (iterator : IteratorId) (m : Move) :
    s.roster.Continues (s.move iterator m).1.roster := by
  cases hrow : s.iterators.get? iterator with
  | none =>
    rw [move_of_none hrow]
    exact .refl _
  | some row =>
    rw [(move_of_some hrow m).1]
    split
    · exact (Roster.continues_accessed s.volume row.owner).trans
        (Roster.continues_setCursor iterator _)
    · exact Roster.continues_setCursor iterator _

end Store

end OrderedStore
