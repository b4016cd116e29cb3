import OrderedStore.Proofs.Store.Fault
import OrderedStore.Proofs.Store.Journal

/-!
# What an action does to sessions and children

An action that is ready names open sessions only and does not close anything.  Its effect
is small: it opens one session, adds one child, or leaves sessions and children as they
are.  `Ready.effect` says so for all of them at once, so nothing that is proved about who
owns what has to look at single operations again.

It also says that a steady store stays steady, and that no ready action fails for
something that is closed.
-/

set_option autoImplicit false

namespace OrderedStore.Store

/-- The invariant of a store whose sessions are closed without children. -/
structure Steady (s : Store) : Prop where
  coherent : s.roster.Coherent
  mild : s.roster.Mild
  quiet : s.Quiet

/-- No outcome in the answer is an error of something closed. -/
def Answer.Mild : Answer → Prop
  | .opened outcome => Except.Mild outcome
  | .done outcome => Except.Mild outcome
  | .value outcome => Except.Mild outcome
  | .text _ => True
  | .snapshot outcome => Except.Mild outcome
  | .iterator outcome => Except.Mild outcome

theorem Answer.Mild.error? {answer : Answer} (h : answer.Mild) {e : Error}
    (he : answer.error? = some e) : e.isClosed = false := by
  cases answer with
  | opened outcome => exact h e (Answer.error?_opened.mp he)
  | done outcome => exact h e (Answer.error?_done.mp he)
  | value outcome => exact h e (Answer.error?_value.mp he)
  | text text => cases he
  | snapshot outcome => exact h e (Answer.error?_snapshot.mp he)
  | iterator outcome => exact h e (Answer.error?_iterator.mp he)

/-- The answer hands something out. -/
def Answer.isBuilt : Answer → Bool
  | .opened (.ok _) | .snapshot (.ok _) | .iterator (.ok _) => true
  | _ => false

/-- What an action has done to sessions and children, as told by its answer. -/
inductive Effect (s s' : Store) : Action → Answer → Prop where
  | opened {action : Action} {id : SessionId} (fresh : s.isOpen id = false)
    (unowned : ∀ b, s.roster.owner? b ≠ some id)
    (isOpen : ∀ id', s'.isOpen id' = if id' = id then true else s.isOpen id')
    (owner : ∀ b, s'.roster.owner? b = s.roster.owner? b) : Effect s s' action (.opened (.ok id))
  | snapshot {id : SessionId} {snapshot : SnapshotId} (isOpen : ∀ id', s'.isOpen id' = s.isOpen id')
    (fresh : s.roster.owner? (.snapshot snapshot) = none)
    (owner : ∀ b, s'.roster.owner? b =
      if b = .snapshot snapshot then some id else s.roster.owner? b) :
    Effect s s' (.snapshot id) (.snapshot (.ok snapshot))
  | iterator {id : SessionId} {through : Option SnapshotId} {iterator : IteratorId}
    (isOpen : ∀ id', s'.isOpen id' = s.isOpen id')
    (fresh : s.roster.owner? (.iterator iterator) = none)
    (owner : ∀ b, s'.roster.owner? b =
      if b = .iterator iterator then some id else s.roster.owner? b) :
    Effect s s' (.iterate id through) (.iterator (.ok iterator))
  | kept {action : Action} {answer : Answer} (built : answer.isBuilt = false)
    (isOpen : ∀ id', s'.isOpen id' = s.isOpen id')
    (owner : ∀ b, s'.roster.owner? b = s.roster.owner? b) : Effect s s' action answer

/-- The action closes nothing, and the sessions that it uses are open. -/
inductive Ready (s : Store) : Action → Prop where
  | openAt (path : String) (options : Options) : Ready s (.openAt path options)
  | openMemory (options : Options) : Ready s (.openMemory options)
  | put {id : SessionId} (isOpen : s.isOpen id = true) (key value : Bytes) (sync : Bool) :
    Ready s (.put id key value sync)
  | delete {id : SessionId} (isOpen : s.isOpen id = true) (key : Bytes) (sync : Bool) :
    Ready s (.delete id key sync)
  | write {id : SessionId} (isOpen : s.isOpen id = true) (batch : Batch) (sync : Bool) :
    Ready s (.write id batch sync)
  | get {id : SessionId} (isOpen : s.isOpen id = true) (snapshot : Option SnapshotId)
    (key : Bytes) : Ready s (.get id snapshot key)
  | property {id : SessionId} (isOpen : s.isOpen id = true) (name : Bytes) :
    Ready s (.property id name)
  | snapshot {id : SessionId} (isOpen : s.isOpen id = true) : Ready s (.snapshot id)
  | iterate {id : SessionId} (isOpen : s.isOpen id = true) (snapshot : Option SnapshotId) :
    Ready s (.iterate id snapshot)
  | move {id : SessionId} {iterator : IteratorId} (isOpen : s.isOpen id = true)
    (owner : s.roster.owner? (.iterator iterator) = some id) (m : Move) :
    Ready s (.move iterator m)
  | destroy (path : String) : Ready s (.destroy path)
  | repair (path : String) : Ready s (.repair path)

variable {s s' : Store} {id : SessionId}

theorem steady_ofVolume (v : Volume) : (ofVolume v).Steady where
  coherent := coherent_ofVolume v
  mild := Roster.mild_empty
  quiet := by
    intro event hmem
    exact absurd hmem List.not_mem_nil

theorem Steady.withVolume (h : s.Steady) (v : Volume) : Steady { s with volume := v } :=
  ⟨h.coherent, h.mild, h.quiet⟩

theorem Steady.withVerdicts (h : s.Steady) (verdicts : Verdicts) : Steady { s with verdicts } :=
  ⟨h.coherent, h.mild, h.quiet⟩

/-! ## Single operations -/

theorem isOpen_iff_session : s.isOpen id = true ↔ ∃ session, s.sessions.get? id = some session :=
  Option.isSome_iff_exists

/-- Nothing has been done to sessions and children. -/
structure Keeps (s s' : Store) : Prop where
  isOpen : ∀ id, s'.isOpen id = s.isOpen id
  owner : ∀ b, s'.roster.owner? b = s.roster.owner? b
  iterators : s'.iterators = s.iterators

theorem Keeps.of_roster (h : s'.roster = s.roster) : s.Keeps s' where
  isOpen id := congrArg (Roster.isOpen · id) h
  owner b := congrArg (Roster.owner? · b) h
  iterators := congrArg Roster.iterators h

theorem keeps_of_modifyEngine {f : Engine → Engine}
    (h : s'.roster = s.roster.modifyEngine id f) : s.Keeps s' where
  isOpen id' := by
    show s'.roster.isOpen id' = _
    rw [h]
    exact Roster.isOpen_modifySession id'
  owner b := by
    rw [h]
    exact Roster.owner?_modifySession b
  iterators := congrArg Roster.iterators h

theorem keeps_of_skipSession (h : s'.roster = s.roster.skipSession) : s.Keeps s' where
  isOpen id' := congrArg (Roster.isOpen · id') h
  owner b := by
    rw [h]
    cases b <;> rfl
  iterators := congrArg Roster.iterators h

theorem keeps_commit (s : Store) (id : SessionId) (write : Write) :
    s.Keeps (s.commit id write).1 := by
  cases hsession : s.sessions.get? id with
  | none =>
    rw [commit_of_closed hsession]
    exact .of_roster rfl
  | some session => exact keeps_of_modifyEngine (commit_of_open hsession write).1

theorem keeps_latest (s : Store) (id : SessionId) : s.Keeps (s.latest id).1 :=
  keeps_of_modifyEngine (roster_latest s id)

theorem keeps_viewAt (s : Store) (id : SessionId) (snapshot : Option SnapshotId) :
    s.Keeps (s.viewAt id snapshot).1 := by
  cases snapshot with
  | none => exact keeps_latest s id
  | some snapshot => exact .of_roster rfl

theorem keeps_get (s : Store) (id : SessionId) (snapshot : Option SnapshotId) (key : Bytes) :
    s.Keeps (s.get id snapshot key).1 := by
  cases hread : s.checkRead id snapshot with
  | error e =>
    rw [get_of_error hread]
    exact .of_roster rfl
  | ok _ =>
    rw [get_of_ok hread]
    exact keeps_viewAt s id snapshot

theorem keeps_property (s : Store) (id : SessionId) (name : Bytes) :
    s.Keeps (s.property id name).1 := by
  rcases (property_spec s id name).1 with hsame | hlatest
  · exact .of_roster hsame
  · have hkeeps := keeps_latest s id
    have hkept : (s.latest id).1.Keeps (s.property id name).1 := .of_roster hlatest
    exact ⟨fun id => (hkept.isOpen id).trans (hkeeps.isOpen id),
      fun b => (hkept.owner b).trans (hkeeps.owner b), hkept.iterators.trans hkeeps.iterators⟩

/-- A move changes the cursor of an iterator, and maybe the engine of its session. -/
theorem effect_move (s : Store) (iterator : IteratorId) (m : Move) :
    (∀ id, (s.move iterator m).1.isOpen id = s.isOpen id) ∧
      ∀ b, (s.move iterator m).1.roster.owner? b = s.roster.owner? b := by
  cases hrow : s.iterators.get? iterator with
  | none =>
    rw [move_of_none hrow]
    exact ⟨fun _ => rfl, fun _ => rfl⟩
  | some row =>
    have hroster := (move_of_some hrow m).1
    refine ⟨fun id => ?_, fun b => ?_⟩
    · show (s.move iterator m).1.roster.isOpen id = _
      rw [hroster]
      show Roster.isOpen (if _ then _ else _) id = _
      split
      · exact Roster.isOpen_modifySession id
      · rfl
    · rw [hroster, Roster.owner?_setCursor]
      split
      · exact Roster.owner?_modifySession b
      · rfl

theorem not_isOpen_fresh (h : s.roster.Coherent) : s.isOpen s.sessions.fresh = false := by
  have hfresh : s.sessions.get? s.sessions.fresh = none := h.sessions.get?_fresh
  unfold isOpen
  rw [hfresh]
  rfl

theorem effect_openedAs {engine : Engine} {action : Action} (h : s.roster.Coherent)
    (hopened : s.OpenedAs s' engine) : Effect s s' action (.opened (.ok s.sessions.fresh)) := by
  obtain ⟨logger, options, hroster⟩ := hopened.roster
  refine .opened (not_isOpen_fresh h) h.not_owner_fresh (fun id' => ?_) fun b => ?_
  · show s'.roster.isOpen id' = if id' = s.roster.sessions.fresh then true else s.roster.isOpen id'
    rw [hroster, Roster.isOpen_eq_isSome_engine?, Roster.engine?_openSession]
    split
    · rfl
    · rw [Roster.isOpen_eq_isSome_engine?]
  · rw [hroster]
    exact Roster.owner?_openSession _ b

theorem effect_snapshot (h : s.roster.Coherent) (id : SessionId) :
    Effect s (s.snapshot id).1 (.snapshot id) (.snapshot (s.snapshot id).2) := by
  have hkeeps := keeps_latest s id
  cases hview : (s.latest id).2 with
  | error e =>
    rw [snapshot_of_error hview]
    exact .kept rfl hkeeps.isOpen hkeeps.owner
  | ok view =>
    obtain ⟨hroster, _, houtcome⟩ := snapshot_of_ok hview
    have hfresh : (s.latest id).1.roster.snapshots = s.snapshots :=
      congrArg Roster.snapshots (roster_latest s id)
    rw [houtcome]
    refine .snapshot (fun id' => ?_) h.owner?_snapshot_fresh fun b => ?_
    · rw [← hkeeps.isOpen]
      show (s.snapshot id).1.roster.isOpen id' = (s.latest id).1.roster.isOpen id'
      rw [hroster, Roster.isOpen_eq_isSome_engine?, Roster.engine?_addSnapshot,
        Roster.isOpen_eq_isSome_engine?]
    · rw [hroster, Roster.owner?_addSnapshot, hfresh, hkeeps.owner]

theorem effect_iterate (h : s.roster.Coherent) (id : SessionId) (snapshot : Option SnapshotId) :
    Effect s (s.iterate id snapshot).1 (.iterate id snapshot)
      (.iterator (s.iterate id snapshot).2) := by
  have hkeeps := keeps_viewAt s id snapshot
  cases hread : s.checkRead id snapshot with
  | error e =>
    rw [iterate_of_error hread]
    exact .kept rfl (fun _ => rfl) fun _ => rfl
  | ok _ =>
    obtain ⟨hroster, _, houtcome⟩ := iterate_of_ok hread
    rw [houtcome, hkeeps.iterators]
    refine .iterator (fun id' => ?_) h.owner?_iterator_fresh fun b => ?_
    · rw [← hkeeps.isOpen]
      show (s.iterate id snapshot).1.roster.isOpen id' =
        (s.viewAt id snapshot).1.roster.isOpen id'
      rw [hroster, Roster.isOpen_eq_isSome_engine?, Roster.engine?_addIterator,
        Roster.isOpen_eq_isSome_engine?]
    · have hfresh : (s.viewAt id snapshot).1.roster.iterators = s.iterators := hkeeps.iterators
      rw [hroster, Roster.owner?_addIterator, hfresh, hkeeps.owner]

/-! ## All ready actions -/

theorem mild_of_keeps (h : s.roster.Mild) (hkeeps : s.Keeps s') : s'.roster.Mild :=
  h.congr hkeeps.iterators

theorem row_of_owner {iterator : IteratorId}
    (howner : s.roster.owner? (.iterator iterator) = some id) :
    ∃ row, s.iterators.get? iterator = some row ∧ row.owner = id :=
  Option.map_eq_some_iff.mp howner

/-- The effect of a ready action on a steady store, which stays steady. -/
theorem Ready.effect {action : Action} (hready : s.Ready action) (h : s.Steady) :
    (s.perform action).1.Steady ∧ Effect s (s.perform action).1 action (s.perform action).2 ∧
      (s.perform action).2.Mild := by
  have hcoherent := coherent_perform h.coherent action
  -- The three writes are commits.
  have hcommit : ∀ {id : SessionId} (write : Write), s.isOpen id = true →
      (s.commit id write).1.roster.Coherent → (s.commit id write).1.Steady ∧
        Effect s (s.commit id write).1 action (.done (s.commit id write).2) ∧
          Except.Mild (s.commit id write).2 := by
    intro id write hopen hcoherent
    have hkeeps := keeps_commit s id write
    exact ⟨⟨hcoherent, mild_of_keeps h.mild hkeeps, h.quiet.commit id write⟩,
      .kept rfl hkeeps.isOpen hkeeps.owner, (external_commit hopen write).mild⟩
  -- The two openings are alike, whether they come off or not.
  have hbegun : ∀ {result : Store × Except Error SessionId} {s' : Store} {engine : Engine},
      result = (s', .ok s.sessions.fresh) → s.OpenedAs s' engine → result.1.roster.Coherent →
      result.1.Quiet → Except.Mild result.2 → result.1.Steady ∧
        Effect s result.1 action (.opened result.2) ∧ Except.Mild result.2 := by
    rintro _ s' engine rfl hopened hcoherent hquiet hmild
    obtain ⟨logger, options, hroster⟩ := hopened.roster
    exact ⟨⟨hcoherent, h.mild.congr (by rw [hroster]; rfl), hquiet⟩,
      effect_openedAs h.coherent hopened, hmild⟩
  have hskipped : ∀ {result : Store × Except Error SessionId} {s' : Store} {e : Error},
      result = (s', .error e) → s.OpenFailed s' → result.1.roster.Coherent → result.1.Quiet →
      Except.Mild result.2 → result.1.Steady ∧ Effect s result.1 action (.opened result.2) ∧
        Except.Mild result.2 := by
    rintro _ s' e rfl hfailed hcoherent hquiet hmild
    have hkeeps := keeps_of_skipSession hfailed.roster
    exact ⟨⟨hcoherent, mild_of_keeps h.mild hkeeps, hquiet⟩,
      .kept rfl hkeeps.isOpen hkeeps.owner, hmild⟩
  cases hready with
  | openAt path options =>
    have hquiet := h.quiet.openAt path options
    have hmild := (external_openAt s path options).mild
    rcases openAt_spec s path options with ⟨s', engine, heq, hopened⟩ | ⟨s', e, heq, hfailed⟩
    · exact hbegun heq hopened hcoherent hquiet hmild
    · exact hskipped heq hfailed hcoherent hquiet hmild
  | openMemory options =>
    have hquiet := h.quiet.openInMemory options
    have hmild := (external_openInMemory s options).mild
    rcases openInMemory_spec s options with ⟨s', heq, _, hopened⟩ | ⟨s', e, heq, _, hfailed⟩
    · exact hbegun heq hopened hcoherent hquiet hmild
    · exact hskipped heq hfailed hcoherent hquiet hmild
  | put hopen key value sync => exact hcommit _ hopen hcoherent
  | delete hopen key sync => exact hcommit _ hopen hcoherent
  | write hopen batch sync => exact hcommit _ hopen hcoherent
  | @get id hopen snapshot key =>
    have hkeeps := keeps_get s id snapshot key
    exact ⟨⟨hcoherent, mild_of_keeps h.mild hkeeps, h.quiet.get id snapshot key⟩,
      .kept rfl hkeeps.isOpen hkeeps.owner, mild_get h.coherent hopen snapshot key⟩
  | @property id hopen name =>
    have hkeeps := keeps_property s id name
    exact ⟨⟨hcoherent, mild_of_keeps h.mild hkeeps, h.quiet.property id name⟩,
      .kept rfl hkeeps.isOpen hkeeps.owner, trivial⟩
  | @snapshot id hopen =>
    have hmild : (s.snapshot id).1.roster.Mild := by
      have hlatest := mild_of_keeps h.mild (keeps_latest s id)
      cases hview : (s.latest id).2 with
      | error e =>
        rw [snapshot_of_error hview]
        exact hlatest
      | ok view =>
        rw [(snapshot_of_ok hview).1]
        exact hlatest.congr rfl
    exact ⟨⟨hcoherent, hmild, h.quiet.snapshot id⟩, effect_snapshot h.coherent id,
      (external_snapshot hopen).mild⟩
  | @iterate id hopen snapshot =>
    exact ⟨⟨hcoherent, roster_mild_iterate h.coherent h.mild id snapshot,
      h.quiet.iterate id snapshot⟩, effect_iterate h.coherent id snapshot,
      mild_iterate hopen snapshot⟩
  | @move id iterator hopen howner m =>
    obtain ⟨row, hrow, rfl⟩ := row_of_owner howner
    obtain ⟨houtcome, hmild⟩ := mild_move h.coherent h.mild hrow hopen m
    have heffect := effect_move s iterator m
    exact ⟨⟨hcoherent, hmild, h.quiet.move iterator m⟩, .kept rfl heffect.1 heffect.2, houtcome⟩
  | destroy path =>
    have hkeeps := Keeps.of_roster (destroy_spec s path).1
    exact ⟨⟨hcoherent, mild_of_keeps h.mild hkeeps, h.quiet.destroy path⟩,
      .kept rfl hkeeps.isOpen hkeeps.owner, (external_destroy s path).mild⟩
  | repair path =>
    have hkeeps := keeps_of_skipSession (repair_spec s path).1
    exact ⟨⟨hcoherent, mild_of_keeps h.mild hkeeps, h.quiet.repair path⟩,
      .kept rfl hkeeps.isOpen hkeeps.owner, (external_repair s path).mild⟩

/-! ## Letting go -/

/-- Some children have been let go, and nothing else has changed. -/
structure Clears (s s' : Store) (gone : Borrower → Prop) : Prop where
  steady : s'.Steady
  isOpen : ∀ id, s'.isOpen id = s.isOpen id
  none : ∀ b, gone b → s'.roster.owner? b = none
  kept : ∀ b, ¬ gone b → s'.roster.owner? b = s.roster.owner? b

theorem Clears.refl (h : s.Steady) : s.Clears s fun _ => False :=
  ⟨h, fun _ => rfl, fun _ hgone => hgone.elim, fun _ _ => rfl⟩

theorem Clears.trans {s'' : Store} {gone gone' : Borrower → Prop} (h : s.Clears s' gone)
    (h' : s'.Clears s'' gone') : s.Clears s'' fun b => gone b ∨ gone' b where
  steady := h'.steady
  isOpen id := (h'.isOpen id).trans (h.isOpen id)
  none b hgone := by
    by_cases hlater : gone' b
    · exact h'.none b hlater
    · rw [h'.kept b hlater]
      exact h.none b (hgone.resolve_right hlater)
  kept b hkept := by
    rw [not_or] at hkept
    rw [h'.kept b hkept.2, h.kept b hkept.1]

theorem Clears.congr {gone gone' : Borrower → Prop} (h : s.Clears s' gone)
    (hiff : ∀ b, gone' b ↔ gone b) : s.Clears s' gone' :=
  ⟨h.steady, h.isOpen, fun b hgone => h.none b ((hiff b).mp hgone),
    fun b hkept => h.kept b fun hgone => hkept ((hiff b).mpr hgone)⟩

theorem Clears.owner?_eq {child : Borrower} (h : s.Clears s' fun b => b = child) (b : Borrower) :
    s'.roster.owner? b = if b = child then Option.none else s.roster.owner? b := by
  split
  · rename_i hb
    exact h.none b hb
  · rename_i hb
    exact h.kept b hb

theorem clears_dropIterator (h : s.Steady) (iterator : IteratorId) :
    s.Clears (s.dropIterator iterator) fun b => b = .iterator iterator := by
  obtain ⟨hroster, _⟩ := dropIterator_spec s iterator
  refine ⟨⟨?_, ?_, h.quiet.dropIterator iterator⟩, fun id => ?_, fun b hb => ?_, fun b hb => ?_⟩
  · rw [hroster]
    exact h.coherent.dropIterator iterator
  · rw [hroster]
    exact h.mild.dropIterator iterator
  · show (s.dropIterator iterator).roster.isOpen id = s.roster.isOpen id
    rw [hroster, Roster.isOpen_eq_isSome_engine?, Roster.engine?_dropIterator,
      Roster.isOpen_eq_isSome_engine?]
  · rw [hroster, Roster.owner?_dropIterator, if_pos hb]
  · rw [hroster, Roster.owner?_dropIterator, if_neg hb]

theorem clears_dropSnapshot (h : s.Steady) (snapshot : SnapshotId) :
    s.Clears (s.dropSnapshot snapshot) fun b => b = .snapshot snapshot := by
  obtain ⟨hroster, _⟩ := dropSnapshot_spec s snapshot
  refine ⟨⟨?_, ?_, h.quiet.dropSnapshot snapshot⟩, fun id => ?_, fun b hb => ?_, fun b hb => ?_⟩
  · rw [hroster]
    exact h.coherent.dropSnapshot snapshot
  · rw [hroster]
    exact h.mild.congr (Roster.iterators_dropSnapshot snapshot)
  · show (s.dropSnapshot snapshot).roster.isOpen id = s.roster.isOpen id
    rw [hroster, Roster.isOpen_eq_isSome_engine?, Roster.engine?_dropSnapshot,
      Roster.isOpen_eq_isSome_engine?]
  · rw [hroster, Roster.owner?_dropSnapshot, if_pos hb]
  · rw [hroster, Roster.owner?_dropSnapshot, if_neg hb]

/-- A list of children is let go one after the other. -/
theorem clears_run {α : Type} {child : α → Borrower} (drop : α → Action)
    (hdrop : ∀ {s : Store}, s.Steady → ∀ thing,
      s.Clears (s.perform (drop thing)).1 fun b => b = child thing)
    (h : s.Steady) (things : List α) :
    s.Clears (s.run (things.map drop)) fun b => ∃ thing ∈ things, b = child thing := by
  induction things generalizing s with
  | nil => exact (Clears.refl h).congr fun b => by simp
  | cons thing rest ih =>
    have hfirst := hdrop h thing
    exact (hfirst.trans (ih hfirst.steady)).congr fun b => by simp

/-- A session has been ended that nothing belonged to. -/
structure Ends (s s' : Store) (id : SessionId) : Prop where
  steady : s'.Steady
  isOpen : ∀ id', s'.isOpen id' = if id' = id then false else s.isOpen id'
  owner : ∀ b, s'.roster.owner? b = s.roster.owner? b

theorem ends_of_endSession (h : s.Steady) (hquiet : s'.Quiet)
    (hroster : s'.roster = s.roster.endSession id) : s.Ends s' id := by
  refine ⟨⟨?_, ?_, hquiet⟩, fun id' => ?_, fun b => ?_⟩
  · rw [hroster]
    exact h.coherent.endSession id
  · rw [hroster]
    exact h.mild.congr (Roster.iterators_endSession id)
  · show s'.roster.isOpen id' = _
    rw [hroster]
    exact Roster.isOpen_endSession id id'
  · rw [hroster, Roster.owner?_endSession]

theorem ends_close (h : s.Steady) (hnone : ∀ b, s.roster.owner? b ≠ some id) :
    s.Ends (s.close id) id :=
  ends_of_endSession h (h.quiet.close h.coherent hnone) (roster_close s id)

theorem ends_discard (h : s.Steady) (hnone : ∀ b, s.roster.owner? b ≠ some id) :
    s.Ends (s.discard id) id :=
  ends_of_endSession h (h.quiet.discard h.coherent hnone) (roster_discard s id)

end OrderedStore.Store
