import OrderedStore.Proofs.Store.Run

/-!
# Errors that report something closed

The error of a closed session is raised by operations on a session that is not open, and
by nothing else: neither the file system nor the engine comes to it, and a child of an
open session never keeps it.  So whoever uses open sessions and their own children
only never sees it.
-/

set_option autoImplicit false

namespace OrderedStore

/-- Does the error report that something has been closed? -/
def Error.isClosed : Error → Bool
  | .closed _ => true
  | _ => false

/-- Does the error come from the file system or the engine, and not from misuse? -/
def Error.isExternal (e : Error) : Bool := e.kind ≠ .programming

/-- If an outcome is an error then one of a sort. -/
def Except.Fails {α : Type} (sort : Error → Prop) (outcome : Except Error α) : Prop :=
  ∀ e, outcome = .error e → sort e

/-- If an outcome is an error then not one of something closed. -/
def Except.Mild {α : Type} (outcome : Except Error α) : Prop :=
  ∀ e, outcome = .error e → e.isClosed = false

/-- If an outcome is an error then one that comes from the file system or the engine. -/
abbrev Except.External {α : Type} (outcome : Except Error α) : Prop :=
  Except.Fails (fun e => e.isExternal = true) outcome

section Fails

variable {α β : Type} {sort sort' : Error → Prop} {outcome : Except Error α}

theorem Except.fails_ok (a : α) : Except.Fails sort (.ok a : Except Error α) := by
  intro e he
  simp at he

theorem Except.fails_error {e : Error} (h : sort e) :
    Except.Fails sort (.error e : Except Error α) := by
  intro e' he
  rw [← Except.error.inj he]
  exact h

theorem Except.Fails.map (h : Except.Fails sort outcome) (f : α → β) :
    Except.Fails sort (outcome.map f) := by
  cases outcome with
  | ok a => exact Except.fails_ok (f a)
  | error e => exact Except.fails_error (h e rfl)

theorem Except.Fails.mono (h : Except.Fails sort outcome) (hsort : ∀ e, sort e → sort' e) :
    Except.Fails sort' outcome := fun e he => hsort e (h e he)

end Fails

theorem Except.mild_ok {α : Type} (a : α) : Except.Mild (.ok a : Except Error α) :=
  Except.fails_ok a

theorem Except.mild_error {α : Type} {e : Error} (h : e.isClosed = false) :
    Except.Mild (.error e : Except Error α) :=
  Except.fails_error h

theorem Error.isClosed_of_isExternal {e : Error} (h : e.isExternal = true) :
    e.isClosed = false := by
  cases e with
  | closed resource => simp [isExternal, kind] at h
  | _ => rfl

/-- Neither the file system nor the engine reports something closed. -/
theorem Except.Fails.mild {α : Type} {outcome : Except Error α} (h : Except.External outcome) :
    Except.Mild outcome := h.mono fun _ => Error.isClosed_of_isExternal

theorem Error.isExternal_ofFault (fault : Fault) : (Error.ofFault fault).isExternal = true := by
  cases fault <;> rfl

/-! ## Files and engines -/

namespace Directory

variable {v : Volume}

theorem external_acquire (v : Volume) (text : String) : Except.External (acquire v text).2 := by
  unfold acquire
  split
  · exact Except.fails_error rfl
  · split
    · exact Except.fails_error rfl
    · exact Except.fails_ok _

theorem external_enter (v : Volume) (text : String) : Except.External (enter v text).2 := by
  unfold enter
  split
  · exact (external_acquire v text).map _
  · exact Except.fails_error rfl

theorem external_openAt (v : Volume) (text : String) (create : Bool) :
    Except.External (openAt v text create).2 := by
  unfold openAt
  split
  · exact external_enter v text
  · split
    · split
      · exact external_enter _ text
      · exact Except.fails_error rfl
    · exact Except.fails_error rfl

end Directory

namespace Removal

theorem external_step {removal : Removal} (text : String) (v : Volume)
    (h : Except.External removal.outcome) : Except.External (step text v removal).2.outcome := by
  cases removal with
  | begun =>
    have hacquire := Directory.external_acquire v text
    simp only [step]
    split
    · split
      · exact Except.fails_ok ()
      · rename_i heq
        rw [heq] at hacquire
        exact Except.fails_error (hacquire _ rfl)
    · exact Except.fails_ok ()
  | locked lock =>
    simp only [step]
    split
    · split
      · exact Except.fails_ok ()
      · exact Except.fails_error rfl
    · exact Except.fails_ok ()
  | emptied lock => exact Except.fails_ok ()
  | unlocked =>
    simp only [step]
    split
    · exact Except.fails_ok ()
    · exact Except.fails_error rfl
  | cleared => exact Except.fails_ok ()
  | finished outcome => exact h

theorem external_steps {removal : Removal} (text : String) (n : Nat) (v : Volume)
    (h : Except.External removal.outcome) : Except.External (steps text n v removal).2.outcome := by
  induction n generalizing v removal with
  | zero => exact h
  | succ n ih => exact ih _ (external_step text v h)

end Removal

theorem Directory.external_destroy (v : Volume) (text : String) :
    Except.External (Directory.destroy v text).2 := by
  have hbegun : Except.External Removal.begun.outcome := Except.fails_ok ()
  have hsteps := Removal.external_steps text Removal.length v hbegun
  unfold Directory.destroy
  generalize Removal.steps text Removal.length v .begun = result at hsteps ⊢
  exact hsteps

theorem Verdicts.Says.isExternal {verdicts : Verdicts} {e : Error} (h : verdicts.Says e) :
    e.isExternal = true := by
  obtain ⟨_, fault, _, rfl⟩ := h
  exact Error.isExternal_ofFault fault

namespace Engine

theorem external_openData (v : Volume) (directory : Directory) (create : Bool)
    (verdicts : Verdicts) : Except.External (openData v directory create verdicts).2 := by
  unfold openData
  split
  · exact Except.fails_error (Error.isExternal_ofFault _)
  · split
    · exact Except.fails_error (Error.isExternal_ofFault _)
    · split
      · exact Except.fails_error (Error.isExternal_ofFault _)
      · split
        · exact Except.fails_error (Error.isExternal_ofFault _)
        · exact Except.fails_ok _

theorem external_openChecked (v : Volume) (directory : Directory) (create checks : Bool)
    (verdicts : Verdicts) :
    Except.External (openChecked v directory create checks verdicts).2.2 := by
  intro e he
  rcases openChecked_error (Prod.ext rfl (Prod.ext rfl he)) with hdata | hsays
  · exact external_openData v directory create verdicts e (congrArg Prod.snd hdata)
  · exact hsays.isExternal

theorem external_openIn (v : Volume) (directory : Directory) (options : Options)
    (verdicts : Verdicts) : Except.External (openIn v directory options verdicts).2.2 := by
  unfold openIn
  split
  · exact Except.fails_error rfl
  · exact external_openChecked v directory _ _ verdicts

theorem external_access (v : Volume) (engine : Engine) : Except.External (engine.access v) := by
  unfold access
  split
  · exact Except.fails_error (Error.isExternal_ofFault _)
  · split
    · exact Except.fails_ok ()
    · exact Except.fails_error (Error.isExternal_ofFault _)

theorem external_view (v : Volume) (engine : Engine) : Except.External (engine.view v) :=
  (external_access v engine).map _

theorem external_commit (v : Volume) (engine : Engine) (mutations : List Mutation)
    (verdicts : Verdicts) : Except.External (engine.commit v mutations verdicts).2.2 := by
  intro e he
  rcases commit_error he with haccess | hsays
  · exact external_access v engine e haccess
  · exact hsays.isExternal

theorem external_openInMemory (verdicts : Verdicts) :
    Except.External (openInMemory verdicts) := by
  rcases openInMemory_cases verdicts with heq | ⟨e, hsays, heq⟩
  · rw [heq]
    exact Except.fails_ok _
  · rw [heq]
    exact Except.fails_error hsays.isExternal

end Engine

/-! ## What iterators keep -/

namespace Roster

/-- All errors that iterators keep are of a sort. -/
structure Retains (sort : Error → Prop) (r : Roster) : Prop where
  view : ∀ {iterator : IteratorId} {row : Iterator}, r.iterators.get? iterator = some row →
    Except.Fails sort row.view
  cursor : ∀ {iterator : IteratorId} {row : Iterator}, r.iterators.get? iterator = some row →
    ∀ e, row.cursor = .degraded e → sort e

/-- No iterator keeps the error of something closed. -/
structure Mild (r : Roster) : Prop where
  view : ∀ {iterator : IteratorId} {row : Iterator}, r.iterators.get? iterator = some row →
    Except.Mild row.view
  cursor : ∀ {iterator : IteratorId} {row : Iterator}, r.iterators.get? iterator = some row →
    ∀ e, row.cursor = .degraded e → e.isClosed = false

variable {r r' : Roster}

section Retains

variable {sort : Error → Prop}

theorem retains_empty : empty.Retains sort where
  view h := by simp [empty] at h
  cursor h := by simp [empty] at h

theorem Retains.congr (h : r.Retains sort) (hiterators : r'.iterators = r.iterators) :
    r'.Retains sort := by
  refine ⟨?_, ?_⟩ <;> rw [hiterators]
  · exact h.view
  · exact h.cursor

theorem Retains.addIterator (h : r.Retains sort) {id : SessionId} {view : Except Error Keyspace}
    (hview : Except.Fails sort view) : (r.addIterator id view).Retains sort := by
  have hrows : ∀ {iterator : IteratorId} {row : Iterator},
      (r.addIterator id view).iterators.get? iterator = some row →
      r.iterators.get? iterator = some row ∨
        Except.Fails sort row.view ∧ ∀ e, row.cursor = .degraded e → sort e := by
    intro iterator row hrow
    cases view with
    | ok view =>
      have hget : (r.iterators.insert ⟨id, .ok r.leases.fresh, .unpositioned⟩).get? iterator =
        some row := hrow
      rw [Table.get?_insert] at hget
      split at hget
      · rw [← Option.some.inj hget]
        exact Or.inr ⟨Except.fails_ok _, fun e he => by simp at he⟩
      · exact Or.inl hget
    | error e =>
      have hget : (r.iterators.insert ⟨id, .error e, .degraded e⟩).get? iterator = some row := hrow
      have hsort := hview e rfl
      rw [Table.get?_insert] at hget
      split at hget
      · rw [← Option.some.inj hget]
        exact Or.inr ⟨Except.fails_error hsort, fun e' he => Cursor.degraded.inj he ▸ hsort⟩
      · exact Or.inl hget
  refine ⟨fun hrow => ?_, fun hrow => ?_⟩
  · rcases hrows hrow with hold | hnew
    · exact h.view hold
    · exact hnew.1
  · rcases hrows hrow with hold | hnew
    · exact h.cursor hold
    · exact hnew.2

theorem Retains.dropIterator (h : r.Retains sort) (iterator : IteratorId) :
    (r.dropIterator iterator).Retains sort := by
  cases hrow : r.iterators.get? iterator with
  | none =>
    have hsame : r.dropIterator iterator = r := by simp only [Roster.dropIterator, hrow]
    rw [hsame]
    exact h
  | some row =>
    have hiterators : (r.dropIterator iterator).iterators = r.iterators.erase iterator := by
      simp only [Roster.dropIterator, hrow]
    have hkept : ∀ {other : IteratorId} {row : Iterator},
        (r.dropIterator iterator).iterators.get? other = some row →
        r.iterators.get? other = some row := by
      intro other row hget
      rw [hiterators, Table.get?_erase] at hget
      split at hget
      · simp at hget
      · exact hget
    exact ⟨fun hget => h.view (hkept hget), fun hget => h.cursor (hkept hget)⟩

theorem Retains.setCursor (h : r.Retains sort) (iterator : IteratorId) {cursor : Cursor}
    (hcursor : ∀ e, cursor = .degraded e → sort e) :
    (r.setCursor iterator cursor).Retains sort := by
  have hkept : ∀ {other : IteratorId} {row : Iterator},
      (r.setCursor iterator cursor).iterators.get? other = some row →
      ∃ before, r.iterators.get? other = some before ∧ row.view = before.view ∧
        (row.cursor = cursor ∨ row.cursor = before.cursor) := by
    intro other row hget
    rw [Roster.setCursor, Table.get?_modify] at hget
    split at hget
    · obtain ⟨before, hbefore, rfl⟩ := Option.map_eq_some_iff.mp hget
      exact ⟨before, hbefore, rfl, Or.inl rfl⟩
    · exact ⟨row, hget, rfl, Or.inr rfl⟩
  refine ⟨fun hget => ?_, fun hget e he => ?_⟩
  · obtain ⟨before, hbefore, hview, _⟩ := hkept hget
    rw [hview]
    exact h.view hbefore
  · obtain ⟨before, hbefore, _, hset | hsame⟩ := hkept hget
    · exact hcursor e (hset.symm.trans he)
    · exact h.cursor hbefore e (hsame.symm.trans he)

end Retains

theorem mild_iff_retains : r.Mild ↔ r.Retains fun e => e.isClosed = false :=
  ⟨fun h => ⟨h.view, h.cursor⟩, fun h => ⟨h.view, h.cursor⟩⟩

theorem mild_empty : empty.Mild := mild_iff_retains.mpr retains_empty

theorem Mild.congr (h : r.Mild) (hiterators : r'.iterators = r.iterators) : r'.Mild :=
  mild_iff_retains.mpr ((mild_iff_retains.mp h).congr hiterators)

theorem Mild.dropIterator (h : r.Mild) (iterator : IteratorId) :
    (r.dropIterator iterator).Mild :=
  mild_iff_retains.mpr ((mild_iff_retains.mp h).dropIterator iterator)

end Roster

/-! ## Open sessions and their children -/

namespace Store

variable {s : Store} {id : SessionId} {sort : Error → Prop}

theorem external_openAt (s : Store) (path : String) (options : Options) :
    Except.External (s.openAt path options).2 := by
  have hdirectory := Directory.external_openAt
    (s.allocateCache (s.logger path) options).volume path options.createIfMissing
  unfold openAt
  simp only
  split
  · rename_i heq
    rw [heq] at hdirectory
    exact Except.fails_error (hdirectory _ rfl)
  · rename_i v directory heq
    have hengine := Engine.external_openIn v directory options
      (s.allocateCache (s.logger path) options).verdicts
    split
    · rename_i heq'
      rw [heq'] at hengine
      exact Except.fails_error (hengine _ rfl)
    · exact Except.fails_ok _

theorem external_openInMemory (s : Store) (options : Options) :
    Except.External (s.openInMemory options).2 := by
  have hengine := Engine.external_openInMemory
    (s.allocateCache (s.logger memoryName) options).verdicts
  unfold openInMemory
  simp only
  split
  · rename_i heq
    exact Except.fails_error (hengine _ heq)
  · exact Except.fails_ok _

theorem external_destroy (s : Store) (path : String) : Except.External (s.destroy path).2 := by
  rw [(destroy_spec s path).2.2]
  exact Directory.external_destroy s.volume path

theorem external_repair (s : Store) (path : String) : Except.External (s.repair path).2 := by
  have hdirectory := Directory.external_openAt s.volume path false
  unfold repair
  simp only
  split
  · rename_i heq
    rw [heq] at hdirectory
    exact Except.fails_error (hdirectory _ rfl)
  · rename_i v directory heq
    have hengine := Engine.external_openChecked v directory false true s.verdicts
    split
    · rename_i heq'
      rw [heq'] at hengine
      exact Except.fails_error (hengine _ rfl)
    · exact Except.fails_ok ()

theorem external_commit (hopen : s.isOpen id = true) (write : Write) :
    Except.External (s.commit id write).2 := by
  obtain ⟨session, hsession⟩ := Option.isSome_iff_exists.mp hopen
  rw [(commit_of_open hsession write).2.2]
  exact Engine.external_commit _ _ _ _

theorem external_latest (hopen : s.isOpen id = true) : Except.External (s.latest id).2 := by
  obtain ⟨session, hsession⟩ := Option.isSome_iff_exists.mp hopen
  rw [latest_of_open hsession]
  exact Engine.external_view _ _

theorem external_snapshot (hopen : s.isOpen id = true) : Except.External (s.snapshot id).2 := by
  have hlatest := external_latest hopen
  cases hview : (s.latest id).2 with
  | error e =>
    rw [snapshot_of_error hview]
    exact Except.fails_error (hlatest e hview)
  | ok view =>
    rw [(snapshot_of_ok hview).2.2]
    exact Except.fails_ok _

theorem mild_checkRead (hopen : s.isOpen id = true) (snapshot : Option SnapshotId) :
    Except.Mild (s.checkRead id snapshot) := by
  unfold checkRead
  rw [if_pos hopen]
  cases snapshot with
  | none => exact Except.mild_ok ()
  | some snapshot =>
    show Except.Mild (s.checkOwner id snapshot)
    unfold checkOwner
    split
    · exact Except.mild_ok ()
    · exact Except.mild_error rfl

/-- The view of a borrower whose session is open can be read. -/
theorem pinned_of_borrower (h : s.roster.Coherent) {b : Borrower} {lease : LeaseId}
    (howner : s.roster.owner? b = some id) (hlease : s.roster.lease? b = some lease)
    (hopen : s.isOpen id = true) : ∃ view, s.pinned lease = .ok view := by
  obtain ⟨view?, hget, hview⟩ := h.leased.held howner hlease
  have hopen' : s.roster.isOpen id = true := hopen
  rw [hopen'] at hview
  obtain ⟨view, rfl⟩ := Option.isSome_iff_exists.mp hview
  have hget' : s.leases.get? lease = some ⟨some view⟩ := hget
  refine ⟨view, ?_⟩
  rw [pinned, hget']
  rfl

theorem owner?_of_owns {snapshot : SnapshotId} :
    s.owns id snapshot = true ↔ s.roster.owner? (.snapshot snapshot) = some id := by
  show (s.snapshots.get? snapshot).any _ = true ↔ (s.snapshots.get? snapshot).map _ = some id
  cases s.snapshots.get? snapshot <;> simp

/-- The view of a snapshot can be read while the session that took it is open. -/
theorem snapshotView_of_owns (h : s.roster.Coherent) (hopen : s.isOpen id = true)
    {snapshot : SnapshotId} (howns : s.owns id snapshot = true) :
    ∃ view, s.snapshotView snapshot = .ok view := by
  have howner := owner?_of_owns.mp howns
  obtain ⟨row, hrow, _⟩ := Option.map_eq_some_iff.mp howner
  have hrow' : s.snapshots.get? snapshot = some row := hrow
  have hlease : s.roster.lease? (.snapshot snapshot) = some row.lease :=
    congrArg (Option.map Snapshot.lease) hrow
  unfold snapshotView
  rw [hrow']
  exact pinned_of_borrower h howner hlease hopen

theorem external_viewAt (h : s.roster.Coherent) (hopen : s.isOpen id = true)
    {snapshot : Option SnapshotId} (hread : s.checkRead id snapshot = .ok ()) :
    Except.External (s.viewAt id snapshot).2 := by
  cases snapshot with
  | none => exact external_latest hopen
  | some snapshot =>
    unfold checkRead at hread
    rw [if_pos hopen] at hread
    have howns : s.owns id snapshot = true := by
      simp only [checkOwner] at hread
      split at hread
      · assumption
      · simp at hread
    obtain ⟨view, hview⟩ := snapshotView_of_owns h hopen howns
    show Except.External (s.snapshotView snapshot)
    rw [hview]
    exact Except.fails_ok view

theorem mild_get (h : s.roster.Coherent) (hopen : s.isOpen id = true)
    (snapshot : Option SnapshotId) (key : Bytes) : Except.Mild (s.get id snapshot key).2 := by
  cases hread : s.checkRead id snapshot with
  | error e =>
    rw [get_of_error hread]
    exact Except.mild_error (mild_checkRead hopen snapshot e hread)
  | ok _ =>
    rw [get_of_ok hread]
    exact ((external_viewAt h hopen hread).map _).mild

theorem mild_iterate (hopen : s.isOpen id = true) (snapshot : Option SnapshotId) :
    Except.Mild (s.iterate id snapshot).2 := by
  cases hread : s.checkRead id snapshot with
  | error e =>
    rw [iterate_of_error hread]
    exact Except.mild_error (mild_checkRead hopen snapshot e hread)
  | ok _ =>
    rw [(iterate_of_ok hread).2.2]
    exact Except.mild_ok _

theorem roster_viewAt_iterators (s : Store) (id : SessionId) (snapshot : Option SnapshotId) :
    (s.viewAt id snapshot).1.roster.iterators = s.roster.iterators := by
  cases snapshot with
  | none =>
    have hlatest := congrArg Roster.iterators (roster_latest s id)
    exact hlatest
  | some snapshot => rfl

section Retains

/-! An error that an iterator keeps has come from the file system or the engine, or from the
iterator that it has been kept by before. -/

variable (hexternal : ∀ e : Error, e.isExternal = true → sort e) (h : s.roster.Coherent)
  (hretains : s.roster.Retains sort)

include hexternal h hretains

theorem retains_iterate (id : SessionId) (snapshot : Option SnapshotId) :
    (s.iterate id snapshot).1.roster.Retains sort := by
  cases hread : s.checkRead id snapshot with
  | error e =>
    rw [iterate_of_error hread]
    exact hretains
  | ok _ =>
    have hopen : s.isOpen id = true := isOpen_of_checkRead hread
    rw [(iterate_of_ok hread).1]
    exact (hretains.congr (roster_viewAt_iterators s id snapshot)).addIterator
      ((external_viewAt h hopen hread).mono hexternal)

/-- An iterator of an open session finds its view there. -/
theorem fails_reader {iterator : IteratorId} {row : Iterator}
    (hrow : s.iterators.get? iterator = some row) {read : Reader}
    (hread : s.reader row = some read) (query : Keyspace.Query) :
    Except.Fails sort (read query) := by
  obtain ⟨session, hsession, rfl⟩ := Option.map_eq_some_iff.mp hread
  have hopen : s.isOpen row.owner = true := Option.isSome_iff_exists.mpr ⟨session, hsession⟩
  unfold answer
  split
  · rename_i e hview
    exact Except.fails_error (hretains.view hrow e hview)
  · rename_i lease hview
    have howner : s.roster.owner? (.iterator iterator) = some row.owner := by
      show (s.iterators.get? iterator).map Iterator.owner = _
      rw [hrow]
      rfl
    have hlease : s.roster.lease? (.iterator iterator) = some lease := by
      show ((s.iterators.get? iterator).bind fun row => row.view.toOption) = _
      rw [hrow, Option.bind_some, hview]
      rfl
    obtain ⟨view, hpinned⟩ := pinned_of_borrower h howner hlease hopen
    rw [hpinned]
    exact ((Engine.external_access _ _).mono hexternal).map _

/-- A move fails with something of the sort, or because the session of the iterator has been
closed. -/
theorem fails_move {iterator : IteratorId} {row : Iterator}
    (hrow : s.iterators.get? iterator = some row)
    (hclosed : s.isOpen row.owner = true ∨ sort (.closed .database)) (m : Move) :
    Except.Fails sort (s.move iterator m).2 ∧ (s.move iterator m).1.roster.Retains sort := by
  obtain ⟨hroster, _, houtcome⟩ := move_of_some hrow m
  rw [hroster, houtcome]
  have hmoved : Except.Fails sort (row.cursor.move (s.reader row) m).2 ∧
      ∀ e, (row.cursor.move (s.reader row) m).1 = .degraded e → sort e := by
    unfold Cursor.move
    split
    · exact ⟨Except.fails_ok (), hretains.cursor hrow⟩
    · rename_i query _
      cases hread : s.reader row with
      | none =>
        refine ⟨Except.fails_error ?_, fun e he => by simp at he⟩
        refine hclosed.resolve_left fun hopen => ?_
        obtain ⟨session, hsession⟩ := Option.isSome_iff_exists.mp hopen
        rw [reader, hsession] at hread
        exact nomatch hread
      | some read =>
        have hanswers := fails_reader hexternal h hretains hrow hread query
        refine ⟨hanswers.map _, fun e he => ?_⟩
        simp only [Cursor.land] at he
        split at he
        · simp at he
        · simp at he
        · rename_i e' heq
          exact Cursor.degraded.inj he ▸ hanswers e' heq
  refine ⟨hmoved.1, Roster.Retains.setCursor ?_ iterator hmoved.2⟩
  split
  · exact hretains.congr rfl
  · exact hretains

end Retains

theorem fails_status (hretains : s.roster.Retains sort) {iterator : IteratorId} {row : Iterator}
    (hrow : s.iterators.get? iterator = some row) (hopen : s.isOpen row.owner = true) :
    Except.Fails sort (s.status iterator) := by
  unfold status Cursor.status
  rw [hrow]
  simp only [hopen, if_true]
  split
  · rename_i e hcursor
    exact Except.fails_error (hretains.cursor hrow e hcursor)
  · exact Except.fails_ok ()

theorem roster_mild_iterate (h : s.roster.Coherent) (hmild : s.roster.Mild) (id : SessionId)
    (snapshot : Option SnapshotId) : (s.iterate id snapshot).1.roster.Mild :=
  Roster.mild_iff_retains.mpr <| retains_iterate (fun _ => Error.isClosed_of_isExternal) h
    (Roster.mild_iff_retains.mp hmild) id snapshot

theorem mild_move (h : s.roster.Coherent) (hmild : s.roster.Mild) {iterator : IteratorId}
    {row : Iterator} (hrow : s.iterators.get? iterator = some row)
    (hopen : s.isOpen row.owner = true) (m : Move) :
    Except.Mild (s.move iterator m).2 ∧ (s.move iterator m).1.roster.Mild := by
  obtain ⟨houtcome, hretains⟩ := fails_move (fun _ => Error.isClosed_of_isExternal) h
    (Roster.mild_iff_retains.mp hmild) hrow (Or.inl hopen) m
  exact ⟨houtcome, Roster.mild_iff_retains.mpr hretains⟩

theorem mild_status (hmild : s.roster.Mild) {iterator : IteratorId} {row : Iterator}
    (hrow : s.iterators.get? iterator = some row) (hopen : s.isOpen row.owner = true) :
    Except.Mild (s.status iterator) :=
  fails_status (Roster.mild_iff_retains.mp hmild) hrow hopen

end Store

end OrderedStore
