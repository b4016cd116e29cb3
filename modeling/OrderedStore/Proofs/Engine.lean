import OrderedStore.Proofs.Transaction
import OrderedStore.Proofs.Volume

/-!
# Engines on a volume

An engine sits on a volume if no access of it has failed, its lock file and its engine
file are two and both locked, and its engine file holds what it has committed last.  Such an
engine can always be read, and it fails to write only for reasons of its own.

A volume serves sessions if all their engines sit on it and no file is held by two of
them.  Opening, committing and releasing keep that up, whether the engine grants what it is
asked or not, so a store whose files nobody else writes to never meets an engine that has
failed.
-/

set_option autoImplicit false

namespace OrderedStore

namespace Engine

/-- The files that an engine holds under a lock. -/
def files (engine : Engine) : List FileId :=
  match engine.home with
  | none => []
  | some home => [home.directory.lock, home.data]

/-- The engine is in working order. -/
structure Sits (engine : Engine) (v : Volume) : Prop where
  healthy : engine.failed = false
  locked : ∀ {id : FileId}, id ∈ engine.files → v.isLocked id = true
  nodup : engine.files.Nodup
  image : ∀ {home : Home}, engine.home = some home →
    v.contents home.data = .image engine.latest

variable {engine : Engine} {v v' : Volume}

theorem mem_files_lock {home : Home} (h : engine.home = some home) :
    home.directory.lock ∈ engine.files := by
  simp [files, h]

theorem mem_files_data {home : Home} (h : engine.home = some home) :
    home.data ∈ engine.files := by
  simp [files, h]

/-! ## The engine file -/

theorem store_of_home {home : Home} (h : engine.home = some home) (keyspace : Keyspace) :
    engine.store v keyspace = v.setContents home.data (.image keyspace) := by
  simp only [store, h]

theorem letGo_of_home {home : Home} (h : engine.home = some home) :
    engine.letGo v = v.setLocked home.data false := by
  simp only [letGo, h]

/-- A keyspace is put into one file at most, and that is one of the engine's own. -/
theorem store_cases (v : Volume) (engine : Engine) (keyspace : Keyspace) :
    engine.store v keyspace = v ∨
      ∃ id ∈ engine.files, engine.store v keyspace = v.setContents id (.image keyspace) := by
  cases hhome : engine.home with
  | none => exact Or.inl (by simp only [store, hhome])
  | some home => exact Or.inr ⟨home.data, mem_files_data hhome, store_of_home hhome keyspace⟩

@[simp] theorem isLocked_store (v : Volume) (engine : Engine) (keyspace : Keyspace)
    (id : FileId) : (engine.store v keyspace).isLocked id = v.isLocked id := by
  rcases store_cases v engine keyspace with heq | ⟨file, _, heq⟩
  · rw [heq]
  · rw [heq, Volume.isLocked_setContents]

theorem store_store (v : Volume) (engine : Engine) (keyspace later : Keyspace) :
    engine.store (engine.store v keyspace) later = engine.store v later := by
  cases hhome : engine.home with
  | none => simp only [store, hhome]
  | some home =>
    rw [store_of_home hhome, store_of_home hhome, store_of_home hhome,
      Volume.setContents_setContents]

theorem sits_inMemory (v : Volume) : inMemory.Sits v where
  healthy := rfl
  locked hmem := absurd hmem List.not_mem_nil
  nodup := List.nodup_nil
  image h := by simp [inMemory] at h

namespace Sits

theorem sound (h : engine.Sits v) : engine.sound v = true := by
  unfold Engine.sound
  cases hhome : engine.home with
  | none => rfl
  | some home =>
    simp only [h.image hhome]

theorem access (h : engine.Sits v) : engine.access v = .ok () := by
  unfold Engine.access
  rw [h.healthy, h.sound]
  rfl

theorem accessed (h : engine.Sits v) : engine.accessed v = engine := by
  unfold Engine.accessed
  rw [h.sound, Bool.not_true, Bool.or_false]

theorem view (h : engine.Sits v) : engine.view v = .ok engine.latest := by
  unfold Engine.view
  rw [h.access]
  rfl

/-- A keyspace that is put into the file is the latest one from then on. -/
theorem store (h : engine.Sits v) (keyspace : Keyspace) :
    Sits { engine with latest := keyspace } (engine.store v keyspace) where
  healthy := h.healthy
  locked {id} hmem := by
    rw [isLocked_store]
    exact h.locked hmem
  nodup := h.nodup
  image {home} hhome := by
    have hengine : engine.home = some home := hhome
    have hdata := h.locked (mem_files_data hengine)
    rw [store_of_home hengine, Volume.contents_setContents,
      if_pos ⟨rfl, Volume.isSome_of_isLocked hdata⟩]

/-- An engine in working order commits what it grants; what it refuses leaves no trace. -/
theorem commit (h : engine.Sits v) (mutations : List Mutation) (verdicts : Verdicts) :
    (verdicts.Grants .write mutations ∧
        engine.commit v mutations verdicts =
          (engine.store v (engine.latest.applyAll mutations),
            { engine with latest := engine.latest.applyAll mutations }, .ok ())) ∨
      ∃ fault, verdicts.Refuses .write mutations fault ∧
        engine.commit v mutations verdicts = (v, engine, .error (.ofFault fault)) := by
  unfold Engine.commit
  rw [h.access]
  exact transact_cases v engine .write mutations verdicts

/-- Whoever spares the held files leaves the engine in order. -/
theorem of_spares (h : engine.Sits v) (hspares : v.Spares v') : engine.Sits v' where
  healthy := h.healthy
  locked hmem := (hspares.held (h.locked hmem)).1
  nodup := h.nodup
  image hhome := ((hspares.held (h.locked (mem_files_data hhome))).2).trans (h.image hhome)

theorem setContents (h : engine.Sits v) {id : FileId} (hid : id ∉ engine.files) (c : Contents) :
    engine.Sits (v.setContents id c) where
  healthy := h.healthy
  locked hmem := by
    rw [Volume.isLocked_setContents]
    exact h.locked hmem
  nodup := h.nodup
  image {home} hhome := by
    rw [Volume.contents_setContents, if_neg]
    · exact h.image hhome
    · rintro ⟨heq, _⟩
      exact hid (heq ▸ mem_files_data hhome)

theorem setLocked (h : engine.Sits v) {id : FileId} (hid : id ∉ engine.files) (locked : Bool) :
    engine.Sits (v.setLocked id locked) where
  healthy := h.healthy
  locked {id'} hmem := by
    have hne : id' ≠ id := by
      rintro rfl
      exact hid hmem
    rw [Volume.isLocked_setLocked_of_ne _ _ hne]
    exact h.locked hmem
  nodup := h.nodup
  image hhome := by
    rw [Volume.contents_setLocked]
    exact h.image hhome

end Sits

/-! ## Committing -/

/-- A commit comes to what its transaction does, if an access succeeds. -/
theorem commit_of_ok (h : engine.access v = .ok ()) (mutations : List Mutation)
    (verdicts : Verdicts) :
    engine.commit v mutations verdicts = engine.transact v .write mutations verdicts := by
  simp only [commit, h]

theorem commit_of_grants (h : engine.access v = .ok ()) {mutations : List Mutation}
    {verdicts : Verdicts} (hgrants : verdicts.Grants .write mutations) :
    engine.commit v mutations verdicts =
      (engine.store v (engine.latest.applyAll mutations),
        { engine with latest := engine.latest.applyAll mutations }, .ok ()) := by
  rw [commit_of_ok h, transact_of_grants hgrants]

theorem commit_of_error {e : Error} (h : engine.access v = .error e) (mutations : List Mutation)
    (verdicts : Verdicts) :
    engine.commit v mutations verdicts = (v, engine.accessed v, .error e) := by
  simp only [commit, h]

theorem access_eq_ok_iff :
    engine.access v = .ok () ↔ engine.failed = false ∧ engine.sound v = true := by
  unfold access
  cases engine.failed <;> cases engine.sound v <;> simp

/-- An engine that has failed once fails for ever. -/
theorem access_accessed {e : Error} (h : engine.access v = .error e) :
    (engine.accessed v).failed = true := by
  have hnot : ¬ (engine.failed = false ∧ engine.sound v = true) := by
    rw [← access_eq_ok_iff, h]
    simp
  unfold accessed
  cases hfailed : engine.failed <;> cases hsound : engine.sound v <;> simp_all

/-- An access that comes off leaves the engine as it is. -/
theorem accessed_of_ok (h : engine.access v = .ok ()) : engine.accessed v = engine := by
  obtain ⟨_, hsound⟩ := access_eq_ok_iff.mp h
  unfold accessed
  rw [hsound, Bool.not_true, Bool.or_false]

theorem accessed_of_failed (h : engine.failed = true) : engine.accessed v = engine := by
  unfold accessed
  rw [h, Bool.true_or, ← h]

theorem isSome_of_sound {home : Home} (hhome : engine.home = some home)
    (h : engine.sound v = true) : (v.files.get? home.data).isSome = true := by
  unfold sound at h
  rw [hhome] at h
  cases hfile : v.files.get? home.data with
  | some file => rfl
  | none => simp [Volume.contents, hfile] at h

/-- A file that is sound stays sound when an image is written into it. -/
theorem access_store (h : engine.access v = .ok ()) (keyspace : Keyspace) :
    access (engine.store v keyspace) { engine with latest := keyspace } = .ok () := by
  obtain ⟨hfailed, hsound⟩ := access_eq_ok_iff.mp h
  refine access_eq_ok_iff.mpr ⟨hfailed, ?_⟩
  unfold sound
  cases hhome : engine.home with
  | none => rfl
  | some home =>
    have hpresent := isSome_of_sound hhome hsound
    simp only [store_of_home hhome, Volume.contents_setContents, hpresent, and_self, if_true]

/-- What a commit comes to: the file is not to be had, or all is granted and written, or
something is refused and nothing is written. -/
theorem commit_cases (v : Volume) (engine : Engine) (mutations : List Mutation)
    (verdicts : Verdicts) :
    (∃ e, engine.access v = .error e ∧
        engine.commit v mutations verdicts = (v, engine.accessed v, .error e)) ∨
      (engine.access v = .ok () ∧ verdicts.Grants .write mutations ∧
        engine.commit v mutations verdicts =
          (engine.store v (engine.latest.applyAll mutations),
            { engine with latest := engine.latest.applyAll mutations }, .ok ())) ∨
      ∃ fault, engine.access v = .ok () ∧ verdicts.Refuses .write mutations fault ∧
        engine.commit v mutations verdicts = (v, engine, .error (.ofFault fault)) := by
  cases haccess : engine.access v with
  | error e => exact Or.inl ⟨e, rfl, commit_of_error haccess mutations verdicts⟩
  | ok _ =>
    rw [commit_of_ok haccess]
    rcases transact_cases v engine .write mutations verdicts with hgranted | ⟨fault, hrefused⟩
    · exact Or.inr (Or.inl ⟨rfl, hgranted⟩)
    · exact Or.inr (Or.inr ⟨fault, rfl, hrefused⟩)

/-- To commit the same again at once changes nothing: what has been granted is there already, and
what has been refused or could not be had is so once more. -/
theorem commit_again (v : Volume) (engine : Engine) (mutations : List Mutation)
    (verdicts : Verdicts) {later : Verdicts}
    (h : later = verdicts ∨ (engine.commit v mutations verdicts).2.2 = .ok ()) :
    (commit (engine.commit v mutations verdicts).1 (engine.commit v mutations verdicts).2.1
        mutations later).1 = (engine.commit v mutations verdicts).1 ∧
      (commit (engine.commit v mutations verdicts).1 (engine.commit v mutations verdicts).2.1
        mutations later).2.1 = (engine.commit v mutations verdicts).2.1 := by
  rcases commit_cases v engine mutations verdicts with
    ⟨e, haccess, heq⟩ | ⟨haccess, _, heq⟩ | ⟨fault, haccess, hrefuses, heq⟩
  · rw [heq]
    have hfailed := access_accessed haccess
    cases hagain : (engine.accessed v).access v with
    | error e' =>
      rw [commit_of_error hagain, accessed_of_failed hfailed]
      exact ⟨rfl, rfl⟩
    | ok _ =>
      rw [(access_eq_ok_iff.mp hagain).1] at hfailed
      exact absurd hfailed Bool.false_ne_true
  · rw [heq]
    have hagain := access_store haccess (engine.latest.applyAll mutations)
    have hfold : (engine.latest.applyAll mutations).applyAll mutations =
        engine.latest.applyAll mutations := by
      rw [← Keyspace.applyAll_append, Keyspace.applyAll_append_self]
    rcases commit_cases (engine.store v (engine.latest.applyAll mutations))
        { engine with latest := engine.latest.applyAll mutations } mutations later with
      ⟨e, herror, _⟩ | ⟨_, _, heq'⟩ | ⟨fault, _, _, heq'⟩
    · rw [hagain] at herror
      simp at herror
    · rw [heq']
      simp only [hfold]
      exact ⟨store_store v engine _ _, trivial⟩
    · rw [heq']
      exact ⟨rfl, rfl⟩
  · rw [heq] at h ⊢
    obtain rfl := h.resolve_right (by simp)
    rw [heq]
    exact ⟨rfl, rfl⟩

/-- A commit leaves the engine where it is. -/
theorem home_commit (v : Volume) (engine : Engine) (mutations : List Mutation)
    (verdicts : Verdicts) : (engine.commit v mutations verdicts).2.1.home = engine.home := by
  rcases commit_cases v engine mutations verdicts with
    ⟨e, _, heq⟩ | ⟨_, _, heq⟩ | ⟨fault, _, _, heq⟩
  all_goals exact congrArg (fun result => result.2.1.home) heq

/-- A commit writes into one file at most. -/
theorem volume_commit (v : Volume) (engine : Engine) (mutations : List Mutation)
    (verdicts : Verdicts) :
    (engine.commit v mutations verdicts).1 = v ∨
      ∃ id c, (engine.commit v mutations verdicts).1 = v.setContents id c := by
  rcases commit_cases v engine mutations verdicts with
    ⟨e, _, heq⟩ | ⟨_, _, heq⟩ | ⟨fault, _, _, heq⟩
  · rw [heq]
    exact Or.inl rfl
  · rw [heq]
    exact (store_cases v engine _).imp_right fun ⟨id, _, hstore⟩ => ⟨id, _, hstore⟩
  · rw [heq]
    exact Or.inl rfl

/-- A commit fails because the file is not to be had, or because the engine says so. -/
theorem commit_error {mutations : List Mutation} {verdicts : Verdicts} {e : Error}
    (h : (engine.commit v mutations verdicts).2.2 = .error e) :
    engine.access v = .error e ∨ verdicts.Says e := by
  cases haccess : engine.access v with
  | error failed =>
    rw [commit_of_error haccess] at h
    exact Or.inl h
  | ok _ =>
    rw [commit_of_ok haccess] at h
    exact Or.inr (says_of_transact h)

/-! ## Opening -/

/-- An engine file that has been taken up was found or made, free, and good for an engine. -/
theorem openData_ok {directory : Directory} {create : Bool} {verdicts : Verdicts}
    {found : Contents} (h : openData v directory create verdicts = (v', .ok (engine, found))) :
    ∃ w data m, v.openFile (Directory.dataPath directory.text) create = .ok (w, data) ∧
      w.isLocked data = false ∧ w.contents data = found ∧ judge create found = .ok m ∧
      verdicts.refusal (.adopt (some found)) = none ∧
      engine = ⟨some ⟨directory, data⟩, m, false⟩ ∧
      v' = (w.setContents data (.image m)).setLocked data true := by
  unfold openData at h
  cases hopen : v.openFile (Directory.dataPath directory.text) create with
  | error failed =>
    rw [hopen] at h
    simp at h
  | ok opened =>
    obtain ⟨w, data⟩ := opened
    rw [hopen] at h
    simp only at h
    split at h
    · simp at h
    · rename_i hfree
      split at h
      · simp at h
      · rename_i m hjudge
        split at h
        · simp at h
        · rename_i hgranted
          obtain ⟨rfl, hpair⟩ := Prod.mk.inj h
          obtain ⟨rfl, rfl⟩ := Prod.mk.inj (Except.ok.inj hpair)
          exact ⟨w, data, m, rfl, Bool.eq_false_iff.mpr hfree, rfl, hjudge, hgranted, rfl, rfl⟩

/-- What opening an engine gives: it is in working order once its directory is locked, and
its engine file was nobody's before. -/
structure Opened (v v' : Volume) (directory : Directory) (engine : Engine) : Prop where
  spares : v.Spares v'
  home : ∃ data, engine.home = some ⟨directory, data⟩ ∧ v.isLocked data = false
  sits : v.isLocked directory.lock = true → engine.Sits v'

theorem Opened.files_eq {directory : Directory} (h : Opened v v' directory engine) :
    ∃ data, engine.files = [directory.lock, data] ∧ v.isLocked data = false := by
  obtain ⟨data, hhome, hbefore⟩ := h.home
  exact ⟨data, by simp only [files, hhome], hbefore⟩

theorem Opened.of_openData (h : v.WellFormed) {directory : Directory} {create : Bool}
    {verdicts : Verdicts} {found : Contents}
    (heq : openData v directory create verdicts = (v', .ok (engine, found))) :
    Opened v v' directory engine := by
  obtain ⟨w, data, m, hopen, hlocked, _, _, _, rfl, rfl⟩ := openData_ok heq
  have hopened := Volume.Opened.of_openFile h hopen
  have hbefore := hopened.spares.not_locked hlocked
  have hspares := (hopened.spares.setContents hbefore (.image m)).setLocked hbefore true
  refine ⟨hspares, ⟨data, rfl, hbefore⟩, fun hlock => ?_⟩
  have hpresent : ((w.setContents data (.image m)).files.get? data).isSome = true :=
    (Volume.isSome_modify_files w data data _).trans hopened.present
  have hne : directory.lock ≠ data := Volume.Spares.ne_of_held hbefore hlock
  refine ⟨rfl, ?_, ?_, ?_⟩
  · intro id hmem
    rcases List.mem_cons.mp hmem with rfl | hmem
    · exact (hspares.held hlock).1
    · rw [List.mem_singleton.mp hmem, Volume.isLocked_setLocked, if_pos rfl, hpresent]
      rfl
  · exact List.nodup_cons.mpr ⟨by simpa using hne, List.nodup_singleton data⟩
  · intro home hhome
    obtain rfl := Option.some.inj hhome
    rw [Volume.contents_setLocked, Volume.contents_setContents, if_pos ⟨rfl, hopened.present⟩]

theorem spares_of_openData (h : v.WellFormed) {directory : Directory} {create : Bool}
    {verdicts : Verdicts} {outcome : Except Error (Engine × Contents)}
    (heq : openData v directory create verdicts = (v', outcome)) : v.Spares v' := by
  cases outcome with
  | ok opened => exact (Opened.of_openData h heq).spares
  | error e =>
    unfold openData at heq
    cases hopen : v.openFile (Directory.dataPath directory.text) create with
    | error failed =>
      rw [hopen] at heq
      rw [← (Prod.mk.inj heq).1]
      exact Volume.Spares.refl h
    | ok found =>
      obtain ⟨w, data⟩ := found
      have hspares := (Volume.Opened.of_openFile h hopen).spares
      rw [hopen] at heq
      simp only at heq
      -- Whatever the refusal, the file has been opened and nothing has been done to it.
      have hvolume : w = v' := by
        split at heq
        · exact (Prod.mk.inj heq).1
        · split at heq
          · exact (Prod.mk.inj heq).1
          · split at heq
            · exact (Prod.mk.inj heq).1
            · simp at heq
      exact hvolume ▸ hspares

/-- Another keyspace in the file. -/
theorem Opened.store {directory : Directory} (h : Opened v v' directory engine)
    (keyspace : Keyspace) :
    Opened v (engine.store v' keyspace) directory { engine with latest := keyspace } := by
  obtain ⟨data, hhome, hbefore⟩ := h.home
  refine ⟨?_, h.home, fun hlock => (h.sits hlock).store keyspace⟩
  rw [store_of_home hhome]
  exact h.spares.setContents hbefore _

/-- An engine file that is let go of again. -/
theorem Opened.letGo {directory : Directory} (h : Opened v v' directory engine) :
    v.Spares (engine.letGo v') := by
  obtain ⟨data, hhome, hbefore⟩ := h.home
  rw [letGo_of_home hhome]
  exact h.spares.setLocked hbefore false

/-! ### What comes after the file has been taken up -/

/-- What is there when it comes to setting up the keyspace: all is as it was, unless a check has
rebuilt the file. -/
inductive Checked (verdicts : Verdicts) (checks : Bool) (v : Volume) (engine : Engine)
    (found : Contents) : Volume → Engine → Bool → Prop where
  | kept : Checked verdicts checks v engine found v engine false
  | rebuilt {left : Keyspace} (checks_eq : checks = true)
    (finding_eq : verdicts.finding found = .rebuilt left) :
    Checked verdicts checks v engine found (engine.store v left)
      { engine with latest := left } true

/-- How the opening of an engine ends whose file has been taken up. -/
inductive Ending (verdicts : Verdicts) (checks : Bool) (v : Volume) (engine : Engine)
    (found : Contents) : Volume × Bool × Except Error Engine → Prop where
  /-- Everything is granted. -/
  | opened {w : Volume} {checked : Engine} {rebuilt : Bool}
    (hchecked : Checked verdicts checks v engine found w checked rebuilt)
    (grants : verdicts.Grants (.file found) []) :
    Ending verdicts checks v engine found
      (checked.store w checked.latest, rebuilt, .ok checked)
  /-- The check fails. -/
  | unsound {fault : Fault} (checks_eq : checks = true)
    (refused : verdicts.refusal (.check found) = some fault) :
    Ending verdicts checks v engine found (engine.letGo v, false, .error (.ofFault fault))
  /-- The keyspace cannot be set up. -/
  | unset {w : Volume} {checked : Engine} {rebuilt : Bool} {fault : Fault}
    (hchecked : Checked verdicts checks v engine found w checked rebuilt)
    (refused : verdicts.Refuses (.file found) [] fault) :
    Ending verdicts checks v engine found
      (checked.letGo w, rebuilt, .error (.ofFault fault))

section Ending

variable {w : Volume} {directory : Directory} {create checks rebuilt : Bool}
  {verdicts : Verdicts} {found : Contents} {options : Options}

theorem checkIntegrity_cases (verdicts : Verdicts) (v : Volume) (engine : Engine)
    (found : Contents) :
    (∃ fault, verdicts.refusal (.check found) = some fault ∧
        engine.checkIntegrity v found verdicts = (v, engine, .error (.ofFault fault))) ∨
      ∃ w checked rebuilt, Checked verdicts true v engine found w checked rebuilt ∧
        engine.checkIntegrity v found verdicts = (w, checked, .ok rebuilt) := by
  unfold checkIntegrity
  cases hrefusal : verdicts.refusal (.check found) with
  | some fault => exact Or.inl ⟨fault, rfl, rfl⟩
  | none =>
    cases hfinding : verdicts.finding found with
    | clean => exact Or.inr ⟨v, engine, false, .kept, rfl⟩
    | rebuilt left => exact Or.inr ⟨_, _, true, .rebuilt rfl hfinding, rfl⟩

theorem openChecked_of_error {e : Error}
    (h : openData v directory create verdicts = (v', .error e)) (checks : Bool) :
    openChecked v directory create checks verdicts = (v', false, .error e) := by
  simp only [openChecked, h]

/-- Nothing is checked unless that is asked for. -/
theorem checks_cases (verdicts : Verdicts) (v : Volume) (engine : Engine) (found : Contents)
    (checks : Bool) :
    (∃ fault, checks = true ∧ verdicts.refusal (.check found) = some fault ∧
        (if checks then engine.checkIntegrity v found verdicts else (v, engine, .ok false)) =
          (v, engine, .error (.ofFault fault))) ∨
      ∃ w checked rebuilt, Checked verdicts checks v engine found w checked rebuilt ∧
        (if checks then engine.checkIntegrity v found verdicts else (v, engine, .ok false)) =
          (w, checked, .ok rebuilt) := by
  cases checks with
  | false => exact Or.inr ⟨v, engine, false, .kept, rfl⟩
  | true =>
    rw [if_pos rfl]
    rcases checkIntegrity_cases verdicts v engine found with ⟨fault, hrefused, heq⟩ | hchecked
    · exact Or.inl ⟨fault, rfl, hrefused, heq⟩
    · exact Or.inr hchecked

/-- What is left of an opening once its file has been taken up. -/
theorem ending_openChecked (h : openData v directory create verdicts = (w, .ok (engine, found)))
    (checks : Bool) :
    Ending verdicts checks w engine found
      (openChecked v directory create checks verdicts) := by
  unfold openChecked
  rw [h]
  simp only
  rcases checks_cases verdicts w engine found checks with
    ⟨fault, hchecks, hrefused, heq⟩ | ⟨u, checked, rebuilt, hchecked, heq⟩
  · rw [heq]
    exact .unsound hchecks hrefused
  · rw [heq]
    simp only
    rcases transact_cases u checked (.file found) [] verdicts with
      ⟨hgrants, heq⟩ | ⟨fault, hrefuses, heq⟩
    · rw [heq]
      exact .opened hchecked hgrants
    · rw [heq]
      exact .unset hchecked hrefuses

/-- An opening whose file has been taken up does nothing but write keyspaces into it and, if it
fails, let it go. -/
theorem Ending.volume_cases {result : Volume × Bool × Except Error Engine}
    (h : Ending verdicts checks v engine found result) :
    ∃ w, (w = v ∨ ∃ keyspace, w = engine.store v keyspace) ∧
      (result.1 = w ∨ result.1 = engine.letGo w) := by
  cases h with
  | opened hchecked _ =>
    cases hchecked with
    | kept => exact ⟨_, Or.inr ⟨_, rfl⟩, Or.inl rfl⟩
    | rebuilt _ _ => exact ⟨_, Or.inr ⟨_, rfl⟩, Or.inl (store_store v engine _ _)⟩
  | unsound _ _ => exact ⟨v, Or.inl rfl, Or.inr rfl⟩
  | unset hchecked _ =>
    cases hchecked with
    | kept => exact ⟨v, Or.inl rfl, Or.inr rfl⟩
    | rebuilt _ _ => exact ⟨_, Or.inr ⟨_, rfl⟩, Or.inr rfl⟩

/-- An opening fails because the file is not to be had, or because the engine says so. -/
theorem openChecked_error {e : Error}
    (h : openChecked v directory create checks verdicts = (v', rebuilt, .error e)) :
    openData v directory create verdicts = (v', .error e) ∨ verdicts.Says e := by
  rcases hdata : openData v directory create verdicts with ⟨w, failed | ⟨opened, found⟩⟩
  · rw [openChecked_of_error hdata] at h
    cases h
    exact Or.inl rfl
  · have hending := ending_openChecked hdata checks
    rw [h] at hending
    cases hending with
    | unsound _ refused => exact Or.inr (Verdicts.says_of_refusal refused)
    | unset _ refused => exact Or.inr refused.says

/-- An opening that succeeds leaves the keyspace in the file that was found there, or the one that
a check has rebuilt. -/
theorem openChecked_ok
    (h : openChecked v directory create checks verdicts = (v', rebuilt, .ok engine)) :
    ∃ w opened found keyspace, openData v directory create verdicts = (w, .ok (opened, found)) ∧
      engine = { opened with latest := keyspace } ∧ v' = opened.store w keyspace ∧
      (rebuilt = false ∧ keyspace = opened.latest ∨
        rebuilt = true ∧ verdicts.finding found = .rebuilt keyspace) := by
  cases hdata : openData v directory create verdicts with
  | mk w outcome =>
    cases outcome with
    | error e =>
      rw [openChecked_of_error hdata] at h
      simp at h
    | ok opened =>
      obtain ⟨opened, found⟩ := opened
      have hending := ending_openChecked hdata checks
      rw [h] at hending
      cases hending with
      | opened hchecked _ =>
        cases hchecked with
        | kept => exact ⟨w, _, found, _, rfl, rfl, rfl, Or.inl ⟨rfl, rfl⟩⟩
        | @rebuilt left _ hfinding =>
          exact ⟨w, opened, found, left, rfl, rfl, store_store w opened left left,
            Or.inr ⟨rfl, hfinding⟩⟩

theorem openIn_ok (h : openIn v directory options verdicts = (v', rebuilt, .ok engine)) :
    openChecked v directory options.createIfMissing options.paranoidChecks verdicts =
      (v', rebuilt, .ok engine) := by
  unfold openIn at h
  split at h
  · simp at h
  · exact h

theorem Opened.checked (h : Opened v v' directory engine) {checked : Engine}
    (hchecked : Checked verdicts checks v' engine found w checked rebuilt) :
    Opened v w directory checked := by
  cases hchecked with
  | kept => exact h
  | rebuilt _ _ => exact h.store _

/-- However an opening ends, it has spared what was held; if it has succeeded, the engine is in
working order. -/
theorem openChecked_spec (h : v.WellFormed) (directory : Directory) (create checks : Bool)
    (verdicts : Verdicts) :
    (∃ v' rebuilt engine, openChecked v directory create checks verdicts =
        (v', rebuilt, .ok engine) ∧ Opened v v' directory engine) ∨
      ∃ v' rebuilt e, openChecked v directory create checks verdicts =
        (v', rebuilt, .error e) ∧ v.Spares v' := by
  cases hdata : openData v directory create verdicts with
  | mk w outcome =>
    cases outcome with
    | error e =>
      exact Or.inr ⟨w, false, e, openChecked_of_error hdata checks, spares_of_openData h hdata⟩
    | ok opened =>
      obtain ⟨engine, found⟩ := opened
      have hopened := Opened.of_openData h hdata
      generalize hresult : openChecked v directory create checks verdicts = result
      have hending := ending_openChecked hdata checks
      rw [hresult] at hending
      cases hending with
      | opened hchecked _ => exact Or.inl ⟨_, _, _, rfl, (hopened.checked hchecked).store _⟩
      | unsound _ _ => exact Or.inr ⟨_, _, _, rfl, hopened.letGo⟩
      | unset hchecked _ => exact Or.inr ⟨_, _, _, rfl, (hopened.checked hchecked).letGo⟩

theorem Opened.of_openChecked (h : v.WellFormed)
    (heq : openChecked v directory create checks verdicts = (v', rebuilt, .ok engine)) :
    Opened v v' directory engine := by
  rcases openChecked_spec h directory create checks verdicts with
    ⟨w, again, found, hfound, hopened⟩ | ⟨w, again, e, herror, _⟩
  · rw [heq] at hfound
    cases hfound
    exact hopened
  · rw [heq] at herror
    cases herror

theorem spares_of_openChecked (h : v.WellFormed) {outcome : Except Error Engine}
    (heq : openChecked v directory create checks verdicts = (v', rebuilt, outcome)) :
    v.Spares v' := by
  rcases openChecked_spec h directory create checks verdicts with
    ⟨w, again, found, hfound, hopened⟩ | ⟨w, again, e, herror, hspares⟩
  · rw [heq] at hfound
    cases hfound
    exact hopened.spares
  · rw [heq] at herror
    cases herror
    exact hspares

theorem Opened.of_openIn (h : v.WellFormed)
    (heq : openIn v directory options verdicts = (v', rebuilt, .ok engine)) :
    Opened v v' directory engine := Opened.of_openChecked h (openIn_ok heq)

theorem spares_of_openIn (h : v.WellFormed) {outcome : Except Error Engine}
    (heq : openIn v directory options verdicts = (v', rebuilt, outcome)) : v.Spares v' := by
  unfold openIn at heq
  split at heq
  · rw [← (Prod.mk.inj heq).1]
    exact Volume.Spares.refl h
  · exact spares_of_openChecked h heq

/-- Only a check that has been asked for rebuilds a file. -/
theorem checks_of_rebuilt {outcome : Except Error Engine}
    (h : openIn v directory options verdicts = (v', true, outcome)) :
    options.paranoidChecks = true := by
  unfold openIn at h
  split at h
  · simp at h
  · rcases hdata : openData v directory options.createIfMissing verdicts with
      ⟨w, failed | ⟨opened, found⟩⟩
    · rw [openChecked_of_error hdata] at h
      simp at h
    · have hending := ending_openChecked hdata options.paranoidChecks
      rw [h] at hending
      cases hending with
      | opened hchecked _ =>
        cases hchecked with
        | rebuilt hchecks _ => exact hchecks
      | unset hchecked _ =>
        cases hchecked with
        | rebuilt hchecks _ => exact hchecks

/-- An engine in memory that has been opened is a new one. -/
theorem openInMemory_cases (verdicts : Verdicts) :
    openInMemory verdicts = .ok inMemory ∨
      ∃ e, verdicts.Says e ∧ openInMemory verdicts = .error e := by
  unfold openInMemory
  cases hadopt : verdicts.refusal (.adopt none) with
  | some fault => exact Or.inr ⟨_, Verdicts.says_of_refusal hadopt, rfl⟩
  | none =>
    rcases transact_cases .empty inMemory .memory [] verdicts with
      ⟨_, heq⟩ | ⟨fault, hrefused, heq⟩
    · exact Or.inl (by simp only [heq]; rfl)
    · exact Or.inr ⟨_, hrefused.says, by simp only [heq]⟩

end Ending

/-- Releasing files that nobody held before spares what was held. -/
theorem spares_release {v₀ : Volume} (h : v₀.Spares v)
    (hfree : ∀ file ∈ engine.files, v₀.isLocked file = false) :
    v₀.Spares (engine.release v) := by
  unfold release
  split
  · exact h
  · rename_i home hhome
    exact (h.setLocked (hfree _ (mem_files_data hhome)) false).setLocked
      (hfree _ (mem_files_lock hhome)) false

end Engine

/-! ## Serving sessions -/

namespace Volume

/-- All engines are in working order, and none has a file of another one. -/
structure Serves (v : Volume) (engines : SessionId → Option Engine) : Prop where
  wellFormed : v.WellFormed
  sits : ∀ {id : SessionId} {engine : Engine}, engines id = some engine → engine.Sits v
  apart : ∀ {id id' : SessionId} {engine engine' : Engine} {file : FileId},
    engines id = some engine → engines id' = some engine' →
    file ∈ engine.files → file ∈ engine'.files → id = id'

namespace Serves

variable {v v' : Volume} {engines engines' : SessionId → Option Engine} {id : SessionId}

theorem of_spares (h : v.Serves engines) (hspares : v.Spares v') : v'.Serves engines where
  wellFormed := hspares.wellFormed
  sits hid := (h.sits hid).of_spares hspares
  apart := h.apart

theorem congr (h : v.Serves engines) (heq : ∀ id, engines' id = engines id) :
    v.Serves engines' := by
  rw [funext heq]
  exact h

/-- Another session, with files that nobody held before. -/
theorem add (h : v.Serves engines) (hspares : v.Spares v') {engine : Engine}
    (hsits : engine.Sits v') (hfree : ∀ file ∈ engine.files, v.isLocked file = false)
    (heq : ∀ id', engines' id' = if id' = id then some engine else engines id') :
    v'.Serves engines' := by
  have hcross : ∀ {id' : SessionId} {other : Engine} {file : FileId},
      engines id' = some other → file ∈ engine.files → file ∉ other.files := by
    intro id' other file hother hfile hmem
    have hlocked := (h.sits hother).locked hmem
    rw [hfree file hfile] at hlocked
    exact Bool.false_ne_true hlocked
  refine ⟨hspares.wellFormed, ?_, ?_⟩
  · intro id' other hother
    rw [heq] at hother
    split at hother
    · rw [← Option.some.inj hother]
      exact hsits
    · exact (h.sits hother).of_spares hspares
  · intro id₁ id₂ e₁ e₂ file h₁ h₂ hmem₁ hmem₂
    rw [heq] at h₁ h₂
    split at h₁ <;> split at h₂
    · rename_i heq₁ heq₂
      rw [heq₁, heq₂]
    · rw [← Option.some.inj h₁] at hmem₁
      exact absurd hmem₂ (hcross h₂ hmem₁)
    · rw [← Option.some.inj h₂] at hmem₂
      exact absurd hmem₁ (hcross h₁ hmem₂)
    · exact h.apart h₁ h₂ hmem₁ hmem₂

/-- Another keyspace for one session. -/
theorem store (h : v.Serves engines) {engine : Engine} (hid : engines id = some engine)
    (keyspace : Keyspace) :
    (engine.store v keyspace).Serves fun id' =>
      if id' = id then some { engine with latest := keyspace } else engines id' := by
  have hstore := Engine.store_cases v engine keyspace
  refine ⟨?_, ?_, ?_⟩
  · rcases hstore with heq | ⟨file, _, heq⟩
    · rw [heq]
      exact h.wellFormed
    · rw [heq]
      exact h.wellFormed.setContents _ _
  · intro id' other hother
    split at hother
    · rw [← Option.some.inj hother]
      exact (h.sits hid).store keyspace
    · rename_i hne
      rcases hstore with heq | ⟨file, hfile, heq⟩
      · rw [heq]
        exact h.sits hother
      · rw [heq]
        exact (h.sits hother).setContents (fun hmem => hne (h.apart hother hid hmem hfile)) _
  · have hfiles : ∀ {id' : SessionId} {other : Engine},
        (if id' = id then some { engine with latest := keyspace } else engines id') =
          some other →
        ∃ before, engines id' = some before ∧ before.files = other.files := by
      intro id' other hother
      split at hother
      · rename_i heq'
        rw [← Option.some.inj hother, heq']
        exact ⟨engine, hid, rfl⟩
      · exact ⟨other, hother, rfl⟩
    intro id₁ id₂ e₁ e₂ file h₁ h₂ hmem₁ hmem₂
    obtain ⟨b₁, hb₁, hf₁⟩ := hfiles h₁
    obtain ⟨b₂, hb₂, hf₂⟩ := hfiles h₂
    exact h.apart hb₁ hb₂ (hf₁ ▸ hmem₁) (hf₂ ▸ hmem₂)

/-- A session that goes lets go of its files alone. -/
theorem release (h : v.Serves engines) {engine : Engine} (hid : engines id = some engine)
    (heq : ∀ id', engines' id' = if id' = id then none else engines id') :
    (engine.release v).Serves engines' := by
  have hother : ∀ {id' : SessionId} {other : Engine}, engines' id' = some other →
      id' ≠ id ∧ engines id' = some other := by
    intro id' other hsome
    rw [heq] at hsome
    split at hsome
    · simp at hsome
    · rename_i hne
      exact ⟨hne, hsome⟩
  refine ⟨?_, ?_, ?_⟩
  · unfold Engine.release
    split
    · exact h.wellFormed
    · exact (h.wellFormed.setLocked _ _).setLocked _ _
  · intro id' other hsome
    obtain ⟨hne, hold⟩ := hother hsome
    have hsits := h.sits hold
    unfold Engine.release
    split
    · exact hsits
    · rename_i home hhome
      have hdata : home.data ∉ other.files := fun hmem =>
        hne (h.apart hold hid hmem (Engine.mem_files_data hhome))
      have hlock : home.directory.lock ∉ other.files := fun hmem =>
        hne (h.apart hold hid hmem (Engine.mem_files_lock hhome))
      exact (hsits.setLocked hdata false).setLocked hlock false
  · intro id₁ id₂ e₁ e₂ file h₁ h₂
    exact h.apart (hother h₁).2 (hother h₂).2

end Serves

end Volume

end OrderedStore
