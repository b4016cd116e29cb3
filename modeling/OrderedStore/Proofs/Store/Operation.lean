import OrderedStore.Proofs.Engine
import OrderedStore.Proofs.Store.Coherent
import OrderedStore.Store.Property

/-!
# What the operations of a store do

Each operation of a store changes the roster in one of the ways that rosters change, or
in two in a row, and does to the volume what its engine does.  The lemmas of this
module say which, operation by operation; nothing else of the development opens the
definitions of the operations.
-/

set_option autoImplicit false

namespace OrderedStore.Store

variable {s : Store} {id : SessionId}

/-! ## Opening -/

/-- A store with nothing new but events. -/
structure Reported (s s' : Store) : Prop where
  roster : s'.roster = s.roster
  volume : s'.volume = s.volume
  verdicts : s'.verdicts = s.verdicts

theorem Reported.refl (s : Store) : s.Reported s := ⟨rfl, rfl, rfl⟩

theorem reported_allocateCache (s : Store) (logger : Logger) (options : Options) :
    s.Reported (s.allocateCache logger options) := by
  unfold allocateCache
  split <;> exact ⟨rfl, rfl, rfl⟩

theorem reported_warnRebuilt (s : Store) (logger : Logger) (rebuilt : Bool) :
    s.Reported (s.warnRebuilt logger rebuilt) := by
  unfold warnRebuilt
  split <;> exact ⟨rfl, rfl, rfl⟩

theorem reported_releaseCache (s : Store) (logger : Logger) (options : Options) :
    s.Reported (s.releaseCache logger options) := by
  unfold releaseCache
  split <;> exact ⟨rfl, rfl, rfl⟩

theorem verdicts_abandon (s : Store) (logger : Logger) (options : Options) :
    (s.abandon logger options).verdicts = s.verdicts :=
  (reported_releaseCache s logger options).verdicts

theorem roster_abandon (s : Store) (logger : Logger) (options : Options) :
    (s.abandon logger options).roster = s.roster.skipSession := by
  have hcache := (reported_releaseCache s logger options).roster
  show (s.releaseCache logger options).roster.skipSession = _
  rw [hcache]

theorem volume_abandon (s : Store) (logger : Logger) (options : Options) :
    (s.abandon logger options).volume = s.volume :=
  (reported_releaseCache s logger options).volume

theorem roster_assemble (s : Store) (logger : Logger) (options : Options) (engine : Engine) :
    (s.assemble logger options engine).1.roster =
      s.roster.openSession ⟨logger, options, engine, 0, 0, []⟩ := rfl

/-- What a failed opening leaves: one identity fewer to hand out. -/
structure OpenFailed (s s' : Store) : Prop where
  roster : s'.roster = s.roster.skipSession
  verdicts : s'.verdicts = s.verdicts
  spares : s.volume.WellFormed → s.volume.Spares s'.volume

/-- What a successful opening leaves: a session without children, whose engine is in
working order and has files that nobody held before. -/
structure OpenedAs (s s' : Store) (engine : Engine) : Prop where
  roster : ∃ logger options,
    s'.roster = s.roster.openSession ⟨logger, options, engine, 0, 0, []⟩
  verdicts : s'.verdicts = s.verdicts
  spares : s.volume.WellFormed → s.volume.Spares s'.volume
  sits : s.volume.WellFormed → engine.Sits s'.volume
  free : s.volume.WellFormed → ∀ file ∈ engine.files, s.volume.isLocked file = false

theorem openAt_spec (s : Store) (path : String) (options : Options) :
    (∃ s' engine, s.openAt path options = (s', .ok s.sessions.fresh) ∧ s.OpenedAs s' engine) ∨
      ∃ s' e, s.openAt path options = (s', .error e) ∧ s.OpenFailed s' := by
  obtain ⟨hroster, hvolume, hverdicts⟩ := reported_allocateCache s (s.logger path) options
  unfold openAt
  simp only
  rw [hvolume]
  cases hdirectory : Directory.openAt s.volume path options.createIfMissing with
  | mk v outcome =>
    cases outcome with
    | error e =>
      refine Or.inr ⟨_, e, rfl, ?_, (verdicts_abandon _ _ _).trans hverdicts, fun h => ?_⟩
      · rw [roster_abandon]
        exact congrArg Roster.skipSession hroster
      · rw [volume_abandon]
        exact Directory.spares_of_openAt h hdirectory
    | ok directory =>
      simp only
      rcases hengine : Engine.openIn v directory options
        (s.allocateCache (s.logger path) options).verdicts with ⟨w, rebuilt, outcome⟩
      have hwarned := fun t : Store => reported_warnRebuilt t (s.logger path) rebuilt
      cases outcome with
      | error e =>
        refine Or.inr ⟨_, e, rfl, ?_, ?_, fun h => ?_⟩
        · rw [roster_abandon, (hwarned _).roster]
          exact congrArg Roster.skipSession hroster
        · rw [verdicts_abandon, (hwarned _).verdicts]
          exact hverdicts
        · rw [volume_abandon, (hwarned _).volume]
          have hacquired := Directory.Acquired.of_openAt h hdirectory
          have hspares := Engine.spares_of_openIn hacquired.spares.wellFormed hengine
          exact (hacquired.spares.trans hspares).setLocked hacquired.before false
      | ok engine =>
        simp only
        obtain ⟨hroster', hvolume', hverdicts'⟩ :=
          hwarned { s.allocateCache (s.logger path) options with volume := w }
        have hsessions' := congrArg Roster.sessions (hroster'.trans hroster)
        refine Or.inl ⟨_, engine,
          Prod.ext rfl (congrArg (fun t : Table .session Session => Except.ok t.fresh) hsessions'),
          ?_, ?_, fun h => ?_, fun h => ?_, fun h => ?_⟩
        · exact ⟨_, _, congrArg (Roster.openSession · _) (hroster'.trans hroster)⟩
        · exact hverdicts'.trans hverdicts
        all_goals
          have hacquired := Directory.Acquired.of_openAt h hdirectory
          have hopened := Engine.Opened.of_openIn hacquired.spares.wellFormed hengine
        · exact hacquired.spares.trans (hvolume' ▸ hopened.spares)
        · exact hvolume' ▸ hopened.sits hacquired.after
        · intro file hmem
          obtain ⟨data, hfiles, hdata⟩ := hopened.files_eq
          rw [hfiles] at hmem
          rcases List.mem_cons.mp hmem with rfl | hmem
          · exact hacquired.before
          · rw [List.mem_singleton.mp hmem]
            exact hacquired.spares.not_locked hdata

theorem openInMemory_spec (s : Store) (options : Options) :
    (∃ s', s.openInMemory options = (s', .ok s.sessions.fresh) ∧ s'.volume = s.volume ∧
        s.OpenedAs s' .inMemory) ∨
      ∃ s' e, s.openInMemory options = (s', .error e) ∧ s'.volume = s.volume ∧
        s.OpenFailed s' := by
  obtain ⟨hroster, hvolume, hverdicts⟩ := reported_allocateCache s (s.logger memoryName) options
  have hsessions : (s.allocateCache (s.logger memoryName) options).sessions = s.sessions :=
    congrArg Roster.sessions hroster
  have hspares : ∀ v : Volume, v = s.volume → s.volume.WellFormed → s.volume.Spares v := by
    rintro v rfl h
    exact Volume.Spares.refl h
  unfold openInMemory
  simp only
  rw [hverdicts]
  rcases Engine.openInMemory_cases s.verdicts with heq | ⟨e, _, heq⟩
  · rw [heq]
    simp only
    refine Or.inl ⟨_, congrArg (Prod.mk _) (congrArg (fun t => Except.ok t.fresh) hsessions),
      hvolume, ⟨s.logger memoryName, options, ?_⟩, hverdicts, hspares _ hvolume, fun _ => ?_,
      fun _ file hmem => ?_⟩
    · rw [roster_assemble, hroster]
    · exact Engine.sits_inMemory _
    · exact absurd hmem List.not_mem_nil
  · rw [heq]
    have hkept := (volume_abandon (s.allocateCache (s.logger memoryName) options)
      (s.logger memoryName) options).trans hvolume
    refine Or.inr ⟨_, _, rfl, hkept, ?_, (verdicts_abandon _ _ _).trans hverdicts, hspares _ hkept⟩
    rw [roster_abandon, hroster]

/-- Opening in memory fails if the engine does not come up, and for no other reason. -/
theorem outcome_openInMemory (s : Store) (options : Options) :
    (s.openInMemory options).2 =
      (Engine.openInMemory s.verdicts).map fun _ => s.sessions.fresh := by
  obtain ⟨hroster, _, hverdicts⟩ := reported_allocateCache s (s.logger memoryName) options
  have hsessions : (s.allocateCache (s.logger memoryName) options).sessions = s.sessions :=
    congrArg Roster.sessions hroster
  unfold openInMemory
  simp only
  rw [hverdicts]
  cases Engine.openInMemory s.verdicts with
  | error e => rfl
  | ok engine => exact congrArg (fun t => Except.ok t.fresh) hsessions

/-! ## Closing -/

theorem foldl_revoke (s : Store) (leases : List LeaseId) :
    leases.foldl revoke s = { s with leases := (s.roster.revokeAll leases).leases } := by
  induction leases generalizing s with
  | nil => rfl
  | cons lease rest ih => exact ih (s.revoke lease)

theorem roster_revokeLeases (s : Store) (session : Session) :
    (s.revokeLeases session).roster =
      s.roster.revokeAll (session.leases.filter s.roster.isHeld) := by
  unfold revokeLeases
  simp only [foldl_revoke]
  split <;> rfl

theorem volume_revokeLeases (s : Store) (session : Session) :
    (s.revokeLeases session).volume = s.volume := by
  unfold revokeLeases
  simp only [foldl_revoke]
  split <;> rfl

theorem roster_discard (s : Store) (id : SessionId) :
    (s.discard id).roster = s.roster.endSession id := by
  have hsessions : s.roster.sessions = s.sessions := rfl
  unfold discard Roster.endSession
  rw [hsessions]
  cases s.sessions.get? id with
  | none => rfl
  | some session =>
    simp only
    refine (reported_releaseCache _ session.logger session.options).roster.trans ?_
    have hrevoked := roster_revokeLeases s session
    unfold roster at hrevoked ⊢
    obtain ⟨hsessions, hleases, hsnapshots, hiterators⟩ := Roster.mk.inj hrevoked
    show Roster.mk ((s.revokeLeases session).sessions.erase id) (s.revokeLeases session).leases
      (s.revokeLeases session).snapshots (s.revokeLeases session).iterators = _
    rw [hsessions, hleases, hsnapshots, hiterators]
    rfl

theorem volume_discard (s : Store) (id : SessionId) :
    (s.discard id).volume = match s.sessions.get? id with
      | none => s.volume
      | some session => session.engine.release s.volume := by
  unfold discard
  cases s.sessions.get? id with
  | none => rfl
  | some session =>
    simp only
    refine (reported_releaseCache _ session.logger session.options).volume.trans ?_
    exact congrArg (fun v => session.engine.release v) (volume_revokeLeases s session)

/-- A warning does not change what is discarded. -/
theorem close_eq_discard (s : Store) (id : SessionId) :
    ∃ t, s.Reported t ∧ s.close id = t.discard id := by
  unfold close
  cases hsession : s.sessions.get? id with
  | none => exact ⟨s, Reported.refl s, by simp only [discard, hsession]⟩
  | some session =>
    simp only
    split
    · exact ⟨s.say session.logger
        (.closingWithChildren session.liveSnapshots session.liveIterators), ⟨rfl, rfl, rfl⟩, rfl⟩
    · exact ⟨s, Reported.refl s, rfl⟩

theorem roster_close (s : Store) (id : SessionId) :
    (s.close id).roster = s.roster.endSession id := by
  obtain ⟨t, hreported, heq⟩ := close_eq_discard s id
  rw [heq, roster_discard, hreported.roster]

theorem volume_close (s : Store) (id : SessionId) :
    (s.close id).volume = match s.sessions.get? id with
      | none => s.volume
      | some session => session.engine.release s.volume := by
  obtain ⟨t, hreported, heq⟩ := close_eq_discard s id
  have hsessions : t.sessions = s.sessions := congrArg Roster.sessions hreported.roster
  rw [heq, volume_discard, hsessions, hreported.volume]

/-! ## Maintenance -/

theorem destroy_spec (s : Store) (path : String) :
    (s.destroy path).1.roster = s.roster ∧
      (s.destroy path).1.volume = (Directory.destroy s.volume path).1 ∧
      (s.destroy path).2 = (Directory.destroy s.volume path).2 := by
  unfold destroy
  cases Directory.destroy s.volume path with
  | mk v outcome => cases outcome <;> exact ⟨rfl, rfl, rfl⟩

theorem repair_spec (s : Store) (path : String) :
    (s.repair path).1.roster = s.roster.skipSession ∧
      (s.repair path).1.verdicts = s.verdicts ∧
      (s.volume.WellFormed → s.volume.Spares (s.repair path).1.volume) := by
  unfold repair
  simp only
  cases hdirectory : Directory.openAt s.volume path false with
  | mk v outcome =>
    cases outcome with
    | error e => exact ⟨rfl, rfl, fun h => Directory.spares_of_openAt h hdirectory⟩
    | ok directory =>
      simp only
      rcases hengine : Engine.openChecked v directory false true s.verdicts with
        ⟨w, rebuilt, outcome⟩
      cases outcome with
      | error e =>
        refine ⟨rfl, rfl, fun h => ?_⟩
        have hacquired := Directory.Acquired.of_openAt h hdirectory
        have hspares := Engine.spares_of_openChecked hacquired.spares.wellFormed hengine
        exact (hacquired.spares.trans hspares).setLocked hacquired.before false
      | ok engine =>
        refine ⟨rfl, rfl, fun h => ?_⟩
        have hacquired := Directory.Acquired.of_openAt h hdirectory
        have hopened := Engine.Opened.of_openChecked hacquired.spares.wellFormed hengine
        refine Engine.spares_release (hacquired.spares.trans hopened.spares) fun file hmem => ?_
        obtain ⟨data, hfiles, hdata⟩ := hopened.files_eq
        rw [hfiles] at hmem
        rcases List.mem_cons.mp hmem with rfl | hmem
        · exact hacquired.before
        · rw [List.mem_singleton.mp hmem]
          exact hacquired.spares.not_locked hdata

/-! ## Writing and reading -/

theorem modifyEngine_eq_self (f : Engine → Engine) (h : s.sessions.get? id = none) :
    s.roster.modifyEngine id f = s.roster := by
  unfold Roster.modifyEngine Roster.modifySession roster
  rw [Table.modify_eq_self _ h]

theorem commit_of_closed (h : s.sessions.get? id = none) (write : Write) :
    s.commit id write = (s, .error (.closed .database)) := by
  simp only [commit, h]

theorem commit_of_open {session : Session} (h : s.sessions.get? id = some session)
    (write : Write) :
    (s.commit id write).1.roster = s.roster.modifyEngine id (fun _ =>
        (session.engine.commit s.volume write.mutations s.verdicts).2.1) ∧
      (s.commit id write).1.volume =
        (session.engine.commit s.volume write.mutations s.verdicts).1 ∧
      (s.commit id write).2 =
        (session.engine.commit s.volume write.mutations s.verdicts).2.2 := by
  unfold commit
  rw [h]
  exact ⟨rfl, rfl, rfl⟩

theorem roster_latest (s : Store) (id : SessionId) :
    (s.latest id).1.roster = s.roster.modifyEngine id (Engine.accessed s.volume) := by
  cases hsession : s.sessions.get? id with
  | none =>
    simp only [latest, hsession]
    exact (modifyEngine_eq_self _ hsession).symm
  | some session =>
    simp only [latest, hsession]
    rfl

theorem volume_latest (s : Store) (id : SessionId) : (s.latest id).1.volume = s.volume := by
  unfold latest
  split <;> rfl

theorem latest_of_open {session : Session} (h : s.sessions.get? id = some session) :
    (s.latest id).2 = session.engine.view s.volume := by
  simp only [latest, h]

theorem latest_of_closed (h : s.sessions.get? id = none) :
    s.latest id = (s, .error (.closed .database)) := by
  simp only [latest, h]

theorem get_of_error {snapshot : Option SnapshotId} {e : Error}
    (h : s.checkRead id snapshot = .error e) (key : Bytes) :
    s.get id snapshot key = (s, .error e) := by
  simp only [get, h]

theorem get_of_ok {snapshot : Option SnapshotId} (h : s.checkRead id snapshot = .ok ())
    (key : Bytes) :
    s.get id snapshot key =
      ((s.viewAt id snapshot).1, (s.viewAt id snapshot).2.map fun view => view.get? key) := by
  simp only [get, h]

/-! ## Snapshots -/

theorem snapshot_of_error {e : Error} (h : (s.latest id).2 = .error e) :
    s.snapshot id = ((s.latest id).1, .error e) := by
  unfold snapshot
  split
  · rename_i t e' heq
    rw [heq] at h ⊢
    exact congrArg (t, Except.error ·) (Except.error.inj h)
  · rename_i t view heq
    rw [heq] at h
    simp at h

theorem snapshot_of_ok {view : Keyspace} (h : (s.latest id).2 = .ok view) :
    (s.snapshot id).1.roster = (s.latest id).1.roster.addSnapshot id view ∧
      (s.snapshot id).1.volume = s.volume ∧
      (s.snapshot id).2 = .ok s.snapshots.fresh := by
  have hvolume := volume_latest s id
  have hsnapshots : (s.latest id).1.snapshots = s.snapshots :=
    congrArg Roster.snapshots (roster_latest s id)
  unfold snapshot
  split
  · rename_i t e heq
    rw [heq] at h
    simp at h
  · rename_i t view' heq
    rw [heq] at h hvolume hsnapshots ⊢
    obtain rfl := Except.ok.inj h
    rw [← hvolume, ← hsnapshots]
    exact ⟨rfl, rfl, rfl⟩

theorem dropSnapshot_spec (s : Store) (snapshot : SnapshotId) :
    (s.dropSnapshot snapshot).roster = s.roster.dropSnapshot snapshot ∧
      (s.dropSnapshot snapshot).volume = s.volume := by
  have hsnapshots : s.roster.snapshots = s.snapshots := rfl
  unfold dropSnapshot Roster.dropSnapshot
  rw [hsnapshots]
  cases s.snapshots.get? snapshot <;> exact ⟨rfl, rfl⟩

/-! ## Iterators -/

theorem attach_spec (s : Store) (id : SessionId) (view : Except Error Keyspace) :
    (s.attach id view).1.roster = s.roster.addIterator id view ∧
      (s.attach id view).1.volume = s.volume ∧ (s.attach id view).2 = s.iterators.fresh := by
  cases view with
  | ok view => exact ⟨rfl, rfl, rfl⟩
  | error e =>
    unfold attach
    simp only
    split <;> exact ⟨rfl, rfl, rfl⟩

theorem iterate_of_error {snapshot : Option SnapshotId} {e : Error}
    (h : s.checkRead id snapshot = .error e) : s.iterate id snapshot = (s, .error e) := by
  simp only [iterate, h]

theorem iterate_of_ok {snapshot : Option SnapshotId} (h : s.checkRead id snapshot = .ok ()) :
    (s.iterate id snapshot).1.roster =
        (s.viewAt id snapshot).1.roster.addIterator id (s.viewAt id snapshot).2 ∧
      (s.iterate id snapshot).1.volume = (s.viewAt id snapshot).1.volume ∧
      (s.iterate id snapshot).2 = .ok (s.viewAt id snapshot).1.iterators.fresh := by
  obtain ⟨hroster, hvolume, hid⟩ :=
    attach_spec (s.viewAt id snapshot).1 id (s.viewAt id snapshot).2
  have heq : s.iterate id snapshot =
      (((s.viewAt id snapshot).1.attach id (s.viewAt id snapshot).2).1,
        .ok ((s.viewAt id snapshot).1.attach id (s.viewAt id snapshot).2).2) := by
    simp only [iterate, h]
  rw [heq]
  exact ⟨hroster, hvolume, congrArg Except.ok hid⟩

theorem dropIterator_spec (s : Store) (iterator : IteratorId) :
    (s.dropIterator iterator).roster = s.roster.dropIterator iterator ∧
      (s.dropIterator iterator).volume = s.volume := by
  have hiterators : s.roster.iterators = s.iterators := rfl
  unfold dropIterator Roster.dropIterator
  rw [hiterators]
  cases s.iterators.get? iterator with
  | none => exact ⟨rfl, rfl⟩
  | some row =>
    obtain ⟨owner, view, cursor⟩ := row
    cases view <;> exact ⟨rfl, rfl⟩

theorem move_of_none {iterator : IteratorId} (h : s.iterators.get? iterator = none) (m : Move) :
    s.move iterator m = (s, .error (.closed .iterator)) := by
  simp only [move, h]

theorem reported_warnDegraded (s : Store) (row : Iterator) (outcome : Except Error Unit) :
    s.Reported (s.warnDegraded row outcome) := by
  unfold warnDegraded
  split <;> exact ⟨rfl, rfl, rfl⟩

theorem move_of_some {iterator : IteratorId} {row : Iterator}
    (h : s.iterators.get? iterator = some row) (m : Move) :
    (s.move iterator m).1.roster =
        (if s.reaches row m then s.roster.modifyEngine row.owner (Engine.accessed s.volume)
          else s.roster).setCursor iterator (row.cursor.move (s.reader row) m).1 ∧
      (s.move iterator m).1.volume = s.volume ∧
      (s.move iterator m).2 = (row.cursor.move (s.reader row) m).2 := by
  unfold move
  rw [h]
  refine ⟨?_, ?_, rfl⟩
  · refine (reported_warnDegraded _ row _).roster.trans ?_
    split <;> rfl
  · refine (reported_warnDegraded _ row _).volume.trans ?_
    split <;> rfl

/-! ## Properties -/

/-- Asking for a property is an access to the engine at most. -/
theorem property_spec (s : Store) (id : SessionId) (name : Bytes) :
    ((s.property id name).1.roster = s.roster ∨
        (s.property id name).1.roster = (s.latest id).1.roster) ∧
      (s.property id name).1.volume = s.volume := by
  have hcompute : ∀ session property,
      ((s.compute id session property).1 = s ∨
        (s.compute id session property).1 = (s.latest id).1) := by
    intro session property
    cases property
    · exact Or.inr rfl
    · exact Or.inl rfl
    · exact Or.inl rfl
    · exact Or.inr rfl
  unfold property
  split
  · rename_i session property _ _
    have hcase := hcompute session property
    split
    · rename_i t text heq
      rw [heq] at hcase
      rcases hcase with hcase | hcase <;> rw [show t = _ from hcase]
      · exact ⟨Or.inl rfl, rfl⟩
      · exact ⟨Or.inr rfl, volume_latest s id⟩
    · rename_i t e heq
      rw [heq] at hcase
      rcases hcase with hcase | hcase <;> rw [show t = _ from hcase]
      · exact ⟨Or.inl rfl, rfl⟩
      · exact ⟨Or.inr rfl, volume_latest s id⟩
  · exact ⟨Or.inl rfl, rfl⟩

/-! ## What the engine grants

No operation of the store has a say in it.
-/

theorem verdicts_commit (s : Store) (id : SessionId) (write : Write) :
    (s.commit id write).1.verdicts = s.verdicts := by
  unfold commit
  split <;> rfl

theorem verdicts_latest (s : Store) (id : SessionId) : (s.latest id).1.verdicts = s.verdicts := by
  unfold latest
  split <;> rfl

theorem verdicts_viewAt (s : Store) (id : SessionId) (snapshot : Option SnapshotId) :
    (s.viewAt id snapshot).1.verdicts = s.verdicts := by
  cases snapshot with
  | none => exact verdicts_latest s id
  | some snapshot => rfl

theorem verdicts_get (s : Store) (id : SessionId) (snapshot : Option SnapshotId) (key : Bytes) :
    (s.get id snapshot key).1.verdicts = s.verdicts := by
  cases hread : s.checkRead id snapshot with
  | error e => rw [get_of_error hread]
  | ok _ =>
    rw [get_of_ok hread]
    exact verdicts_viewAt s id snapshot

theorem verdicts_revokeLeases (s : Store) (session : Session) :
    (s.revokeLeases session).verdicts = s.verdicts := by
  unfold revokeLeases
  simp only [foldl_revoke]
  split <;> rfl

theorem verdicts_discard (s : Store) (id : SessionId) : (s.discard id).verdicts = s.verdicts := by
  unfold discard
  cases s.sessions.get? id with
  | none => rfl
  | some session =>
    exact (reported_releaseCache _ session.logger session.options).verdicts.trans
      (verdicts_revokeLeases s session)

theorem verdicts_close (s : Store) (id : SessionId) : (s.close id).verdicts = s.verdicts := by
  obtain ⟨t, hreported, heq⟩ := close_eq_discard s id
  rw [heq, verdicts_discard, hreported.verdicts]

theorem verdicts_destroy (s : Store) (path : String) :
    (s.destroy path).1.verdicts = s.verdicts := by
  unfold destroy
  cases Directory.destroy s.volume path with
  | mk v outcome => cases outcome <;> rfl

theorem verdicts_openAt (s : Store) (path : String) (options : Options) :
    (s.openAt path options).1.verdicts = s.verdicts := by
  rcases openAt_spec s path options with ⟨s', engine, heq, hopened⟩ | ⟨s', e, heq, hfailed⟩
  · rw [heq, hopened.verdicts]
  · rw [heq, hfailed.verdicts]

theorem verdicts_openInMemory (s : Store) (options : Options) :
    (s.openInMemory options).1.verdicts = s.verdicts := by
  rcases openInMemory_spec s options with ⟨s', heq, _, hopened⟩ | ⟨s', e, heq, _, hfailed⟩
  · rw [heq, hopened.verdicts]
  · rw [heq, hfailed.verdicts]

theorem verdicts_snapshot (s : Store) (id : SessionId) :
    (s.snapshot id).1.verdicts = s.verdicts := by
  have hlatest := verdicts_latest s id
  unfold snapshot
  split
  · rename_i t e heq
    rw [heq] at hlatest
    exact hlatest
  · rename_i t view heq
    rw [heq] at hlatest
    exact hlatest

theorem verdicts_dropSnapshot (s : Store) (snapshot : SnapshotId) :
    (s.dropSnapshot snapshot).verdicts = s.verdicts := by
  unfold dropSnapshot
  cases s.snapshots.get? snapshot <;> rfl

theorem verdicts_attach (s : Store) (id : SessionId) (view : Except Error Keyspace) :
    (s.attach id view).1.verdicts = s.verdicts := by
  cases view with
  | ok view => rfl
  | error e =>
    unfold attach
    simp only
    split <;> rfl

theorem verdicts_iterate (s : Store) (id : SessionId) (snapshot : Option SnapshotId) :
    (s.iterate id snapshot).1.verdicts = s.verdicts := by
  cases hread : s.checkRead id snapshot with
  | error e => rw [iterate_of_error hread]
  | ok _ =>
    simp only [iterate, hread]
    exact (verdicts_attach _ _ _).trans (verdicts_viewAt s id snapshot)

theorem verdicts_dropIterator (s : Store) (iterator : IteratorId) :
    (s.dropIterator iterator).verdicts = s.verdicts := by
  unfold dropIterator
  cases s.iterators.get? iterator with
  | none => rfl
  | some row =>
    obtain ⟨owner, view, cursor⟩ := row
    cases view <;> rfl

theorem verdicts_move (s : Store) (iterator : IteratorId) (m : Move) :
    (s.move iterator m).1.verdicts = s.verdicts := by
  unfold move
  cases s.iterators.get? iterator with
  | none => rfl
  | some row =>
    refine (reported_warnDegraded _ row _).verdicts.trans ?_
    split <;> rfl

theorem verdicts_property (s : Store) (id : SessionId) (name : Bytes) :
    (s.property id name).1.verdicts = s.verdicts := by
  have hcompute : ∀ session property,
      (s.compute id session property).1.verdicts = s.verdicts := by
    intro session property
    cases property <;> first | rfl | exact verdicts_latest s id
  unfold property
  split
  · rename_i session property _ _
    have hcase := hcompute session property
    split <;> rename_i heq <;> rw [heq] at hcase <;> exact hcase
  · rfl

end OrderedStore.Store
