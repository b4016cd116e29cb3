import OrderedStore.Proofs.Store.Run

/-!
# Who has a database on the disk

The tenants of a roster are the sessions whose engine has a file, each with its home and with
the map that it has committed last.  `deed` says what an action can do to tenants and to the
volume: it opens or ends a session, commits a write, destroys or repairs a database, or it
leaves tenants and volume as they are.  All that is proved about files over whole runs
goes through these cases and not through the single operations.
-/

set_option autoImplicit false

namespace OrderedStore

namespace Roster

variable {r r' r'' : Roster} {id : SessionId}

/-- The home of a session on the disk, and what the session has committed last. -/
def tenant? (r : Roster) (id : SessionId) : Option (Home × Keyspace) :=
  (r.engine? id).bind fun engine => engine.home.map fun home => (home, engine.latest)

theorem tenant?_eq_some_iff {home : Home} {m : Keyspace} :
    r.tenant? id = some (home, m) ↔
      ∃ engine, r.engine? id = some engine ∧ engine.home = some home ∧ engine.latest = m := by
  unfold tenant?
  rw [Option.bind_eq_some_iff]
  simp only [Option.map_eq_some_iff, Prod.mk.injEq]
  constructor
  · rintro ⟨engine, hengine, _, hhome, rfl, rfl⟩
    exact ⟨engine, hengine, hhome, rfl⟩
  · rintro ⟨engine, hengine, hhome, rfl⟩
    exact ⟨engine, hengine, home, hhome, rfl, rfl⟩

/-- Nothing happens to tenants; no session ends, and new ones come after the old. -/
structure Ages (r r' : Roster) : Prop where
  next_le : r.sessions.next ≤ r'.sessions.next
  isOpen : ∀ {id : SessionId}, id.number < r.sessions.next → r'.isOpen id = r.isOpen id
  tenant : ∀ id, r'.tenant? id = r.tenant? id

theorem Ages.refl (r : Roster) : r.Ages r := ⟨Nat.le_refl _, fun _ => rfl, fun _ => rfl⟩

theorem Ages.trans (h : r.Ages r') (h' : r'.Ages r'') : r.Ages r'' where
  next_le := Nat.le_trans h.next_le h'.next_le
  isOpen hid := (h'.isOpen (Nat.lt_of_lt_of_le hid h.next_le)).trans (h.isOpen hid)
  tenant id := (h'.tenant id).trans (h.tenant id)

/-- A roster with the same engines. -/
theorem Ages.of_engine (hnext : r'.sessions.next = r.sessions.next)
    (hengine : ∀ id, r'.engine? id = r.engine? id) : r.Ages r' where
  next_le := Nat.le_of_eq hnext.symm
  isOpen _ := by rw [isOpen_eq_isSome_engine?, hengine, isOpen_eq_isSome_engine?]
  tenant id := by rw [tenant?, hengine, tenant?]

theorem tenant?_modifyEngine (f : Engine → Engine) (id id' : SessionId) :
    (r.modifyEngine id f).tenant? id' =
      if id' = id then
        (r.engine? id).bind fun engine => (f engine).home.map fun home => (home, (f engine).latest)
      else r.tenant? id' := by
  unfold tenant?
  rw [engine?_modifyEngine]
  split
  · cases r.engine? id <;> rfl
  · rfl

theorem ages_modifyEngine {f : Engine → Engine} (h : ∀ engine, (f engine).home = engine.home)
    (hlatest : ∀ engine, (f engine).latest = engine.latest) (id : SessionId) :
    r.Ages (r.modifyEngine id f) where
  next_le := Nat.le_refl _
  isOpen _ := isOpen_modifySession _
  tenant id' := by
    rw [tenant?_modifyEngine]
    split
    · rename_i heq
      rw [heq]
      simp only [h, hlatest]
      rfl
    · rfl

/-- An access to an engine changes neither its home nor its map. -/
theorem ages_accessed (v : Volume) (id : SessionId) :
    r.Ages (r.modifyEngine id (Engine.accessed v)) :=
  ages_modifyEngine (f := Engine.accessed v) (fun _ => rfl) (fun _ => rfl) id

theorem ages_skipSession (r : Roster) : r.Ages r.skipSession :=
  ⟨Nat.le_succ _, fun _ => rfl, fun _ => rfl⟩

theorem ages_addSnapshot (id : SessionId) (view : Keyspace) : r.Ages (r.addSnapshot id view) :=
  .of_engine rfl (engine?_addSnapshot id view)

theorem ages_addIterator (id : SessionId) (view : Except Error Keyspace) :
    r.Ages (r.addIterator id view) := by
  refine .of_engine ?_ (engine?_addIterator id view)
  cases view <;> rfl

theorem ages_dropSnapshot (snapshot : SnapshotId) : r.Ages (r.dropSnapshot snapshot) := by
  refine .of_engine ?_ (engine?_dropSnapshot snapshot)
  unfold dropSnapshot
  split <;> rfl

theorem ages_dropIterator (iterator : IteratorId) : r.Ages (r.dropIterator iterator) := by
  refine .of_engine ?_ (engine?_dropIterator iterator)
  unfold dropIterator
  split
  · rfl
  · rename_i row _
    cases row.view <;> rfl

theorem ages_setCursor (iterator : IteratorId) (cursor : Cursor) :
    r.Ages (r.setCursor iterator cursor) := .of_engine rfl fun _ => rfl

theorem tenant?_openSession (session : Session) (id : SessionId) :
    (r.openSession session).tenant? id =
      if id = r.sessions.fresh then
        session.engine.home.map fun home => (home, session.engine.latest)
      else r.tenant? id := by
  unfold tenant?
  rw [engine?_openSession]
  split <;> rfl

theorem isOpen_openSession (session : Session) (id : SessionId) :
    (r.openSession session).isOpen id = if id = r.sessions.fresh then true else r.isOpen id := by
  rw [isOpen_eq_isSome_engine?, engine?_openSession, isOpen_eq_isSome_engine?]
  split <;> rfl

theorem tenant?_endSession (id id' : SessionId) :
    (r.endSession id).tenant? id' = if id' = id then none else r.tenant? id' := by
  unfold tenant?
  rw [engine?_endSession]
  split <;> rfl

theorem next_endSession (id : SessionId) : (r.endSession id).sessions.next = r.sessions.next := by
  unfold endSession
  split <;> rfl

theorem Coherent.not_isOpen_fresh (h : r.Coherent) : r.isOpen r.sessions.fresh = false := by
  unfold isOpen
  rw [h.sessions.get?_fresh]
  rfl

/-- A session in memory is no tenant. -/
theorem ages_openSession (h : r.Coherent) (session : Session)
    (hhome : session.engine.home = none) : r.Ages (r.openSession session) where
  next_le := Nat.le_succ _
  isOpen {id} hid := by
    have hne : id ≠ r.sessions.fresh := by
      rintro rfl
      exact Nat.lt_irrefl _ hid
    rw [isOpen_openSession, if_neg hne]
  tenant id := by
    rw [tenant?_openSession]
    split
    · rename_i heq
      have hnone : r.engine? id = none := by
        have hopen := h.not_isOpen_fresh
        rw [isOpen_eq_isSome_engine?, ← heq] at hopen
        exact Option.not_isSome_iff_eq_none.mp (by rw [hopen]; exact Bool.false_ne_true)
      rw [hhome, tenant?, hnone]
      rfl
    · rfl

end Roster

namespace Store

variable {s : Store}

/-- The path that an action opens, destroys or repairs. -/
def Action.path? : Action → Option String
  | .openAt path _ => some path
  | .destroy path => some path
  | .repair path => some path
  | _ => none

/-- The session that an action ends. -/
def Action.ends? : Action → Option SessionId
  | .close id => some id
  | .discard id => some id
  | _ => none

/-- The session that an action writes to, and what it writes. -/
def Action.writes? : Action → Option (SessionId × List Mutation)
  | .put id key value _ => some (id, [.put key value])
  | .putOption id key value _ => some (id, [.ofOption key value])
  | .delete id key _ => some (id, [.delete key])
  | .write id batch _ => some (id, batch.operations)
  | _ => none

/-- An action that has nothing to do with databases on the disk. -/
structure Action.Looks (action : Action) : Prop where
  path : action.path? = none
  ends : action.ends? = none
  writes : action.writes? = none

/-- What an action can do to tenants and to the volume. -/
inductive Deed (s : Store) : Action → Prop where
  | opens (path : String) (options : Options) : Deed s (.openAt path options)
  | ends {action : Action} (id : SessionId) (ends : action.ends? = some id)
    (roster : (s.perform action).1.roster = s.roster.endSession id)
    (volume : (s.perform action).1.volume = match s.sessions.get? id with
      | none => s.volume
      | some session => session.engine.release s.volume) : Deed s action
  | commits {action : Action} (id : SessionId) (write : Write)
    (writes : action.writes? = some (id, write.mutations))
    (perform : s.perform action = ((s.commit id write).1, .done (s.commit id write).2)) :
    Deed s action
  | destroys (path : String) : Deed s (.destroy path)
  | repairs (path : String) : Deed s (.repair path)
  | looks {action : Action} (looks : action.Looks)
    (ages : s.roster.Ages (s.perform action).1.roster)
    (volume : (s.perform action).1.volume = s.volume) : Deed s action

theorem ages_latest (s : Store) (id : SessionId) :
    s.roster.Ages (s.latest id).1.roster := by
  rw [roster_latest]
  exact Roster.ages_accessed s.volume id

theorem ages_viewAt (s : Store) (id : SessionId) (snapshot : Option SnapshotId) :
    s.roster.Ages (s.viewAt id snapshot).1.roster := by
  cases snapshot with
  | none => exact ages_latest s id
  | some snapshot => exact Roster.Ages.refl _

theorem volume_viewAt (s : Store) (id : SessionId) (snapshot : Option SnapshotId) :
    (s.viewAt id snapshot).1.volume = s.volume := by
  cases snapshot with
  | none => exact volume_latest s id
  | some snapshot => rfl

theorem deed_snapshot (s : Store) (id : SessionId) : s.Deed (.snapshot id) := by
  have hlatest := ages_latest s id
  cases hview : (s.latest id).2 with
  | error e =>
    refine .looks ⟨rfl, rfl, rfl⟩ ?_ ?_
    · simp only [perform, snapshot_of_error hview]
      exact hlatest
    · simp only [perform, snapshot_of_error hview, volume_latest]
  | ok view =>
    obtain ⟨hroster, hvolume, _⟩ := snapshot_of_ok hview
    refine .looks ⟨rfl, rfl, rfl⟩ ?_ hvolume
    show s.roster.Ages (s.snapshot id).1.roster
    rw [hroster]
    exact hlatest.trans (Roster.ages_addSnapshot id view)

theorem deed_iterate (s : Store) (id : SessionId) (snapshot : Option SnapshotId) :
    s.Deed (.iterate id snapshot) := by
  cases hread : s.checkRead id snapshot with
  | error e =>
    refine .looks ⟨rfl, rfl, rfl⟩ ?_ ?_
    · simp only [perform, iterate_of_error hread]
      exact Roster.Ages.refl _
    · simp only [perform, iterate_of_error hread]
  | ok _ =>
    obtain ⟨hroster, hvolume, _⟩ := iterate_of_ok hread
    refine .looks ⟨rfl, rfl, rfl⟩ ?_ (hvolume.trans (volume_viewAt s id snapshot))
    show s.roster.Ages (s.iterate id snapshot).1.roster
    rw [hroster]
    exact (ages_viewAt s id snapshot).trans (Roster.ages_addIterator id _)

theorem deed_move (s : Store) (iterator : IteratorId) (m : Move) : s.Deed (.move iterator m) := by
  cases hrow : s.iterators.get? iterator with
  | none =>
    refine .looks ⟨rfl, rfl, rfl⟩ ?_ ?_
    · simp only [perform, move_of_none hrow]
      exact Roster.Ages.refl _
    · simp only [perform, move_of_none hrow]
  | some row =>
    obtain ⟨hroster, hvolume, _⟩ := move_of_some hrow m
    refine .looks ⟨rfl, rfl, rfl⟩ ?_ hvolume
    show s.roster.Ages (s.move iterator m).1.roster
    rw [hroster]
    refine Roster.Ages.trans ?_ (Roster.ages_setCursor _ _)
    split
    · exact Roster.ages_accessed s.volume row.owner
    · exact Roster.Ages.refl _

/-- What each action does. -/
theorem deed (h : s.roster.Coherent) (action : Action) : s.Deed action := by
  cases action with
  | openAt path options => exact .opens path options
  | openMemory options =>
    rcases openInMemory_spec s options with
      ⟨s', heq, hvolume, hopened⟩ | ⟨s', e, heq, hvolume, hfailed⟩
    · refine .looks ⟨rfl, rfl, rfl⟩ ?_ (by simp only [perform, heq, hvolume])
      obtain ⟨logger, given, hroster⟩ := hopened.roster
      simp only [perform, heq]
      rw [hroster]
      exact Roster.ages_openSession h _ rfl
    · refine .looks ⟨rfl, rfl, rfl⟩ ?_ (by simp only [perform, heq, hvolume])
      simp only [perform, heq]
      rw [hfailed.roster]
      exact Roster.ages_skipSession s.roster
  | close id => exact .ends id rfl (roster_close s id) (volume_close s id)
  | discard id => exact .ends id rfl (roster_discard s id) (volume_discard s id)
  | put id key value sync => exact .commits id _ rfl rfl
  | putOption id key value sync => exact .commits id _ rfl rfl
  | delete id key sync => exact .commits id _ rfl rfl
  | write id batch sync => exact .commits id _ rfl rfl
  | get id snapshot key =>
    cases hread : s.checkRead id snapshot with
    | error e =>
      refine .looks ⟨rfl, rfl, rfl⟩ ?_ ?_
      · simp only [perform, get_of_error hread]
        exact Roster.Ages.refl _
      · simp only [perform, get_of_error hread]
    | ok _ =>
      refine .looks ⟨rfl, rfl, rfl⟩ ?_ ?_
      · simp only [perform, get_of_ok hread]
        exact ages_viewAt s id snapshot
      · simp only [perform, get_of_ok hread, volume_viewAt]
  | property id name =>
    obtain ⟨hsame | hlatest, hvolume⟩ := property_spec s id name
    · refine .looks ⟨rfl, rfl, rfl⟩ ?_ hvolume
      show s.roster.Ages (s.property id name).1.roster
      rw [hsame]
      exact Roster.Ages.refl _
    · refine .looks ⟨rfl, rfl, rfl⟩ ?_ hvolume
      show s.roster.Ages (s.property id name).1.roster
      rw [hlatest]
      exact ages_latest s id
  | snapshot id => exact deed_snapshot s id
  | releaseSnapshot id snapshot =>
    obtain ⟨hroster, hvolume⟩ := dropSnapshot_spec s snapshot
    refine .looks ⟨rfl, rfl, rfl⟩ ?_ hvolume
    show s.roster.Ages (s.dropSnapshot snapshot).roster
    rw [hroster]
    exact Roster.ages_dropSnapshot snapshot
  | dropSnapshot snapshot =>
    obtain ⟨hroster, hvolume⟩ := dropSnapshot_spec s snapshot
    refine .looks ⟨rfl, rfl, rfl⟩ ?_ hvolume
    show s.roster.Ages (s.dropSnapshot snapshot).roster
    rw [hroster]
    exact Roster.ages_dropSnapshot snapshot
  | iterate id snapshot => exact deed_iterate s id snapshot
  | move iterator m => exact deed_move s iterator m
  | dropIterator iterator =>
    obtain ⟨hroster, hvolume⟩ := dropIterator_spec s iterator
    refine .looks ⟨rfl, rfl, rfl⟩ ?_ hvolume
    show s.roster.Ages (s.dropIterator iterator).roster
    rw [hroster]
    exact Roster.ages_dropIterator iterator
  | destroy path => exact .destroys path
  | repair path => exact .repairs path
  | listen filter => exact .looks ⟨rfl, rfl, rfl⟩ (Roster.Ages.refl _) rfl
  | sway verdicts => exact .looks ⟨rfl, rfl, rfl⟩ (Roster.Ages.refl _) rfl
  | report event => exact .looks ⟨rfl, rfl, rfl⟩ (Roster.Ages.refl _) rfl

end Store

end OrderedStore
