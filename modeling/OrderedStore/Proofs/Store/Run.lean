import OrderedStore.Proofs.Store.Operation

/-!
# Runs of a store

An action is one operation of a store with its arguments, and a run is a list of actions
carried out one after the other, in any order and on any number of sessions.  Every
run keeps the roster coherent: `coherent_perform` says so for one action and
`coherent_run` for all of them.
-/

set_option autoImplicit false

namespace OrderedStore.Store

/-- The operations on a store. -/
inductive Action where
  | openAt (path : String) (options : Options)
  | openMemory (options : Options)
  | close (id : SessionId)
  | discard (id : SessionId)
  | put (id : SessionId) (key value : Bytes) (sync : Bool)
  | putOption (id : SessionId) (key : Bytes) (value : Option Bytes) (sync : Bool)
  | delete (id : SessionId) (key : Bytes) (sync : Bool)
  | write (id : SessionId) (batch : Batch) (sync : Bool)
  | get (id : SessionId) (snapshot : Option SnapshotId) (key : Bytes)
  | property (id : SessionId) (name : Bytes)
  | snapshot (id : SessionId)
  | releaseSnapshot (id : SessionId) (snapshot : SnapshotId)
  | dropSnapshot (snapshot : SnapshotId)
  | iterate (id : SessionId) (snapshot : Option SnapshotId)
  | move (iterator : IteratorId) (m : Move)
  | dropIterator (iterator : IteratorId)
  | destroy (path : String)
  | repair (path : String)
  /-- The host wants other events. -/
  | listen (filter : Filter)
  /-- From now on the engine grants other things than before. -/
  | sway (verdicts : Verdicts)
  /-- An event comes from outside of the store. -/
  | report (event : Event)

/-- What the operations give. -/
inductive Answer where
  | opened (outcome : Except Error SessionId)
  | done (outcome : Except Error Unit)
  | value (outcome : Except Error (Option Bytes))
  | text (text : Option String)
  | snapshot (outcome : Except Error SnapshotId)
  | iterator (outcome : Except Error IteratorId)

/-- Why an action failed. -/
def Answer.error? : Answer → Option Error
  | .opened (.error e) => some e
  | .done (.error e) => some e
  | .value (.error e) => some e
  | .snapshot (.error e) => some e
  | .iterator (.error e) => some e
  | _ => none

section Error

variable {e : Error}

theorem Answer.error?_opened {outcome : Except Error SessionId} :
    (opened outcome).error? = some e ↔ outcome = .error e := by
  cases outcome <;> simp [error?]

theorem Answer.error?_done {outcome : Except Error Unit} :
    (done outcome).error? = some e ↔ outcome = .error e := by
  cases outcome <;> simp [error?]

theorem Answer.error?_value {outcome : Except Error (Option Bytes)} :
    (value outcome).error? = some e ↔ outcome = .error e := by
  cases outcome <;> simp [error?]

theorem Answer.error?_snapshot {outcome : Except Error SnapshotId} :
    (snapshot outcome).error? = some e ↔ outcome = .error e := by
  cases outcome <;> simp [error?]

theorem Answer.error?_iterator {outcome : Except Error IteratorId} :
    (iterator outcome).error? = some e ↔ outcome = .error e := by
  cases outcome <;> simp [error?]

end Error

/-- Carries out one action. -/
def perform (s : Store) : Action → Store × Answer
  | .openAt path options => ((s.openAt path options).1, .opened (s.openAt path options).2)
  | .openMemory options => ((s.openInMemory options).1, .opened (s.openInMemory options).2)
  | .close id => (s.close id, .done (.ok ()))
  | .discard id => (s.discard id, .done (.ok ()))
  | .put id key value sync => ((s.put id key value sync).1, .done (s.put id key value sync).2)
  | .putOption id key value sync =>
    ((s.putOption id key value sync).1, .done (s.putOption id key value sync).2)
  | .delete id key sync => ((s.delete id key sync).1, .done (s.delete id key sync).2)
  | .write id batch sync => ((s.write id batch sync).1, .done (s.write id batch sync).2)
  | .get id snapshot key => ((s.get id snapshot key).1, .value (s.get id snapshot key).2)
  | .property id name => ((s.property id name).1, .text (s.property id name).2)
  | .snapshot id => ((s.snapshot id).1, .snapshot (s.snapshot id).2)
  | .releaseSnapshot id snapshot =>
    ((s.releaseSnapshot id snapshot).1, .done (s.releaseSnapshot id snapshot).2)
  | .dropSnapshot snapshot => (s.dropSnapshot snapshot, .done (.ok ()))
  | .iterate id snapshot => ((s.iterate id snapshot).1, .iterator (s.iterate id snapshot).2)
  | .move iterator m => ((s.move iterator m).1, .done (s.move iterator m).2)
  | .dropIterator iterator => (s.dropIterator iterator, .done (.ok ()))
  | .destroy path => ((s.destroy path).1, .done (s.destroy path).2)
  | .repair path => ((s.repair path).1, .done (s.repair path).2)
  | .listen filter => ({ s with filter := filter }, .done (.ok ()))
  | .sway verdicts => ({ s with verdicts := verdicts }, .done (.ok ()))
  | .report event => (s.record event, .done (.ok ()))

/-- Carries out actions one after the other. -/
def run (s : Store) (actions : List Action) : Store :=
  actions.foldl (fun s action => (s.perform action).1) s

theorem run_append (s : Store) (actions more : List Action) :
    s.run (actions ++ more) = (s.run actions).run more := List.foldl_append

/-! ## What the engine grants -/

variable {s : Store} {id : SessionId}

/-- What the engine grants after an action, if that is not what it has granted before. -/
def Action.verdicts? : Action → Option Verdicts
  | .sway verdicts => some verdicts
  | _ => none

/-- Only the engine itself decides what it grants. -/
theorem verdicts_perform (s : Store) (action : Action) :
    (s.perform action).1.verdicts = action.verdicts?.getD s.verdicts := by
  cases action with
  | openAt path options => exact verdicts_openAt s path options
  | openMemory options => exact verdicts_openInMemory s options
  | close id => exact verdicts_close s id
  | discard id => exact verdicts_discard s id
  | put id key value sync => exact verdicts_commit s id _
  | putOption id key value sync => exact verdicts_commit s id _
  | delete id key sync => exact verdicts_commit s id _
  | write id batch sync => exact verdicts_commit s id _
  | get id snapshot key => exact verdicts_get s id snapshot key
  | property id name => exact verdicts_property s id name
  | snapshot id => exact verdicts_snapshot s id
  | releaseSnapshot id snapshot => exact verdicts_dropSnapshot s snapshot
  | dropSnapshot snapshot => exact verdicts_dropSnapshot s snapshot
  | iterate id snapshot => exact verdicts_iterate s id snapshot
  | move iterator m => exact verdicts_move s iterator m
  | dropIterator iterator => exact verdicts_dropIterator s iterator
  | destroy path => exact verdicts_destroy s path
  | repair path => exact (repair_spec s path).2.1
  | listen filter => rfl
  | sway verdicts => rfl
  | report event => rfl

/-! ## Coherence -/

theorem isOpen_of_checkRead {snapshot : Option SnapshotId}
    (h : s.checkRead id snapshot = .ok ()) : s.roster.isOpen id = true := by
  unfold checkRead at h
  split at h
  · assumption
  · simp at h

theorem isOpen_of_latest {view : Keyspace} (h : (s.latest id).2 = .ok view) :
    s.roster.isOpen id = true := by
  cases hsession : s.sessions.get? id with
  | none =>
    rw [latest_of_closed hsession] at h
    simp at h
  | some session => exact Roster.isOpen_eq_true_iff.mpr ⟨session, hsession⟩

theorem isOpen_latest (s : Store) (id id' : SessionId) :
    (s.latest id).1.roster.isOpen id' = s.roster.isOpen id' := by
  rw [roster_latest]
  exact Roster.isOpen_modifySession id'

theorem coherent_commit (h : s.roster.Coherent) (id : SessionId) (write : Write) :
    (s.commit id write).1.roster.Coherent := by
  cases hsession : s.sessions.get? id with
  | none =>
    rw [commit_of_closed hsession]
    exact h
  | some session =>
    rw [(commit_of_open hsession write).1]
    exact h.modifyEngine id _

theorem coherent_latest (h : s.roster.Coherent) (id : SessionId) :
    (s.latest id).1.roster.Coherent := by
  rw [roster_latest]
  exact h.modifyEngine id _

theorem coherent_viewAt (h : s.roster.Coherent) (id : SessionId)
    (snapshot : Option SnapshotId) : (s.viewAt id snapshot).1.roster.Coherent := by
  cases snapshot with
  | none => exact coherent_latest h id
  | some snapshot => exact h

theorem isOpen_viewAt (s : Store) (id id' : SessionId) (snapshot : Option SnapshotId) :
    (s.viewAt id snapshot).1.roster.isOpen id' = s.roster.isOpen id' := by
  cases snapshot with
  | none => exact isOpen_latest s id id'
  | some snapshot => rfl

theorem coherent_snapshot (h : s.roster.Coherent) (id : SessionId) :
    (s.snapshot id).1.roster.Coherent := by
  have hlatest := coherent_latest h id
  cases hview : (s.latest id).2 with
  | error e =>
    rw [snapshot_of_error hview]
    exact hlatest
  | ok view =>
    rw [(snapshot_of_ok hview).1]
    refine hlatest.addSnapshot ?_ view
    rw [isOpen_latest]
    exact isOpen_of_latest hview

theorem coherent_iterate (h : s.roster.Coherent) (id : SessionId)
    (snapshot : Option SnapshotId) : (s.iterate id snapshot).1.roster.Coherent := by
  cases hread : s.checkRead id snapshot with
  | error e =>
    rw [iterate_of_error hread]
    exact h
  | ok _ =>
    rw [(iterate_of_ok hread).1]
    refine (coherent_viewAt h id snapshot).addIterator ?_ _
    rw [isOpen_viewAt]
    exact isOpen_of_checkRead hread

theorem coherent_move (h : s.roster.Coherent) (iterator : IteratorId) (m : Move) :
    (s.move iterator m).1.roster.Coherent := by
  cases hrow : s.iterators.get? iterator with
  | none =>
    rw [move_of_none hrow]
    exact h
  | some row =>
    rw [(move_of_some hrow m).1]
    split
    · exact (h.modifyEngine _ _).setCursor _ _
    · exact h.setCursor _ _

theorem coherent_openedAs {s' : Store} {engine : Engine} (h : s.roster.Coherent)
    (hopened : s.OpenedAs s' engine) : s'.roster.Coherent := by
  obtain ⟨logger, options, hroster⟩ := hopened.roster
  rw [hroster]
  exact h.openSession rfl rfl rfl

/-- Every action keeps the roster coherent, whether it succeeds or fails. -/
theorem coherent_perform (h : s.roster.Coherent) (action : Action) :
    (s.perform action).1.roster.Coherent := by
  cases action with
  | openAt path options =>
    rcases openAt_spec s path options with ⟨s', engine, heq, hopened⟩ | ⟨s', e, heq, hfailed⟩
    · simp only [perform, heq]
      exact coherent_openedAs h hopened
    · simp only [perform, heq]
      rw [hfailed.roster]
      exact h.skipSession
  | openMemory options =>
    rcases openInMemory_spec s options with ⟨s', heq, _, hopened⟩ | ⟨s', e, heq, _, hfailed⟩
    · simp only [perform, heq]
      exact coherent_openedAs h hopened
    · simp only [perform, heq]
      rw [hfailed.roster]
      exact h.skipSession
  | close id =>
    simp only [perform, roster_close]
    exact h.endSession id
  | discard id =>
    simp only [perform, roster_discard]
    exact h.endSession id
  | put id key value sync => exact coherent_commit h id _
  | putOption id key value sync => exact coherent_commit h id _
  | delete id key sync => exact coherent_commit h id _
  | write id batch sync => exact coherent_commit h id _
  | get id snapshot key =>
    cases hread : s.checkRead id snapshot with
    | error e =>
      simp only [perform, get_of_error hread]
      exact h
    | ok _ =>
      simp only [perform, get_of_ok hread]
      exact coherent_viewAt h id snapshot
  | property id name =>
    rcases (property_spec s id name).1 with hsame | hlatest
    · simp only [perform, hsame]
      exact h
    · simp only [perform, hlatest]
      exact coherent_latest h id
  | snapshot id => exact coherent_snapshot h id
  | releaseSnapshot id snapshot =>
    simp only [perform, releaseSnapshot, (dropSnapshot_spec s snapshot).1]
    exact h.dropSnapshot snapshot
  | dropSnapshot snapshot =>
    simp only [perform, (dropSnapshot_spec s snapshot).1]
    exact h.dropSnapshot snapshot
  | iterate id snapshot => exact coherent_iterate h id snapshot
  | move iterator m => exact coherent_move h iterator m
  | dropIterator iterator =>
    simp only [perform, (dropIterator_spec s iterator).1]
    exact h.dropIterator iterator
  | destroy path =>
    simp only [perform, (destroy_spec s path).1]
    exact h
  | repair path =>
    simp only [perform, (repair_spec s path).1]
    exact h.skipSession
  | listen filter => exact h
  | sway verdicts => exact h
  | report event => exact h

theorem coherent_run (h : s.roster.Coherent) (actions : List Action) :
    (s.run actions).roster.Coherent := by
  induction actions generalizing s with
  | nil => exact h
  | cons action rest ih => exact ih (coherent_perform h action)

theorem coherent_ofVolume (v : Volume) : (ofVolume v).roster.Coherent := Roster.coherent_empty

end OrderedStore.Store
