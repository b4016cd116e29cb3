import OrderedStore.Proofs.Engine
import OrderedStore.Proofs.Volume.Walk

/-!
# Opening a database directory

Opening a database only adds names, in whatever way it ends (`extends_openAt`,
`extends_openIn`).  If it succeeds, the names of the lock file and of the engine file lead to
the files that are held (`leads_of_openAt`, `home_of_openIn`).
-/

set_option autoImplicit false

namespace OrderedStore

namespace Volume

variable {v v' : Volume} {text : String} {id : FileId} {p : Path}

/-! ## Adding names -/

theorem openOrCreate_cases (h : v.openOrCreate text = .ok (v', id)) :
    ∃ path, (v.node? path = some (.file id) ∧ v' = v) ∨
      (v.node? path = none ∧ v' = (v.addFile path).1 ∧ id = v.files.fresh) := by
  unfold openOrCreate at h
  simp only [bind, Except.bind, pure, Except.pure, throw, throwThe, MonadExceptOf.throw] at h
  split at h
  · simp at h
  · split at h
    · simp at h
    · simp at h
    · simp at h
    · split at h
      · simp at h
      · split at h
        · simp at h
        · rename_i hnode
          obtain ⟨rfl, rfl⟩ := Prod.mk.inj (Except.ok.inj h)
          exact ⟨_, Or.inl ⟨hnode, rfl⟩⟩
        · rename_i hnode
          obtain ⟨hvolume, hid⟩ := Prod.mk.inj (Except.ok.inj h)
          exact ⟨_, Or.inr ⟨hnode, hvolume.symm, hid.symm⟩⟩

theorem extends_openOrCreate (h : v.openOrCreate text = .ok (v', id)) : v.Extends v' := by
  obtain ⟨path, ⟨_, rfl⟩ | ⟨hnone, rfl, _⟩⟩ := openOrCreate_cases h
  · exact Extends.refl _
  · exact extends_addFile hnone

theorem extends_openFile {create : Bool} (h : v.openFile text create = .ok (v', id)) :
    v.Extends v' := by
  unfold openFile at h
  split at h
  · exact extends_openOrCreate h
  · cases hopen : v.openExisting text with
    | error e =>
      rw [hopen] at h
      simp [Except.map] at h
    | ok found =>
      rw [hopen] at h
      rw [← (Prod.mk.inj (Except.ok.inj h)).1]
      exact Extends.refl v

theorem extends_makeDirectory (h : v.makeDirectory text = .ok v') : v.Extends v' := by
  obtain ⟨path, _, _, hnone, rfl⟩ := makeDirectory_cases h
  exact extends_link hnone .directory

theorem extends_makeDirectories (v : Volume) (text : String) :
    v.Extends (v.makeDirectories text).1 :=
  makeDirectories_rel Extends.refl Extends.trans (fun _ _ => extends_makeDirectory) v

end Volume

namespace Directory

open Volume

variable {v v' : Volume} {text : String} {lock : FileId} {p : Path}

/-! ## Acquiring a directory -/

theorem extends_acquire (v : Volume) (text : String) : v.Extends (acquire v text).1 := by
  unfold acquire
  cases hopen : v.openOrCreate (lockPath text) with
  | error e => exact Extends.refl v
  | ok opened =>
    have hextends : v.Extends opened.1 := extends_openOrCreate hopen
    simp only
    split
    · exact hextends
    · exact hextends.trans (extends_setLocked _ _ _)

/-- The lock file that is there is the one that is opened. -/
theorem openOrCreate_lock (hcheck : checkText (lockPath text) = .ok ()) (h : v.Leads text p)
    (hnode : v.node? (p ++ ["LOCK"]) = some (.file lock)) :
    v.openOrCreate (lockPath text) = .ok (v, lock) := by
  have hopen := openOrCreate_join regular_lock hcheck h
  rw [hnode] at hopen
  exact hopen

/-- A lock that is held keeps everybody else out. -/
theorem acquire_of_held (hcheck : checkText (lockPath text) = .ok ()) (h : v.Leads text p)
    (hnode : v.node? (p ++ ["LOCK"]) = some (.file lock)) (hlocked : v.isLocked lock = true) :
    acquire v text = (v, .error (.io s!"lock {lockPath text}: already held by process")) := by
  simp only [acquire, openOrCreate_lock hcheck h hnode, hlocked, if_true]

theorem acquire_of_free (hcheck : checkText (lockPath text) = .ok ()) (h : v.Leads text p)
    (hnode : v.node? (p ++ ["LOCK"]) = some (.file lock)) (hlocked : v.isLocked lock = false) :
    acquire v text = (v.setLocked lock true, .ok lock) := by
  simp only [acquire, openOrCreate_lock hcheck h hnode, hlocked, Bool.false_eq_true, if_false]

/-- What has been acquired is behind the name of the lock file, and was free. -/
theorem leads_of_acquire (h : acquire v text = (v', .ok lock)) :
    checkText (lockPath text) = .ok () ∧ ∃ p, v.Leads text p ∧
      v'.node? (p ++ ["LOCK"]) = some (.file lock) ∧
      ∀ id, v.node? (p ++ ["LOCK"]) = some (.file id) → v.isLocked id = false := by
  unfold acquire at h
  cases hopen : v.openOrCreate (lockPath text) with
  | error e =>
    rw [hopen] at h
    simp at h
  | ok opened =>
    obtain ⟨w, found⟩ := opened
    obtain ⟨hcheck, p, hleads⟩ := leads_of_openOrCreate regular_lock hopen
    refine ⟨hcheck, p, hleads, ?_⟩
    rw [hopen] at h
    simp only at h
    split at h
    · simp at h
    · rename_i hfree
      obtain ⟨rfl, hlock⟩ := Prod.mk.inj h
      obtain rfl := Except.ok.inj hlock
      obtain ⟨hnode, hsame⟩ := node?_of_openOrCreate regular_lock hleads hopen
      rw [node?_setLocked]
      refine ⟨hnode, fun id hid => ?_⟩
      obtain ⟨rfl, rfl⟩ := hsame id hid
      simpa using hfree

theorem extends_enter (v : Volume) (text : String) : v.Extends (enter v text).1 := by
  unfold enter
  split
  · exact extends_acquire v text
  · exact Extends.refl v

theorem extends_openAt (v : Volume) (text : String) (create : Bool) :
    v.Extends (openAt v text create).1 := by
  unfold openAt
  split
  · exact extends_enter v text
  · split
    · have hmade := extends_makeDirectories v text
      cases hmake : v.makeDirectories text with
      | mk w outcome =>
        rw [hmake] at hmade
        cases outcome with
        | error e => exact hmade
        | ok _ => exact hmade.trans (extends_enter w text)
    · exact Extends.refl v

theorem enter_of_leads (hcheck : checkText text = .ok ()) (h : v.Leads text p) :
    enter v text = ((acquire v text).1, (acquire v text).2.map fun lock => ⟨text, lock⟩) := by
  unfold enter
  rw [if_pos (leadsToDirectory_iff.mpr ⟨hcheck, p, h⟩)]

theorem leads_of_enter {directory : Directory} (h : enter v text = (v', .ok directory)) :
    directory.text = text ∧ checkText (lockPath text) = .ok () ∧
      ∃ p, v'.Leads text p ∧ v'.node? (p ++ ["LOCK"]) = some (.file directory.lock) := by
  unfold enter at h
  split at h
  · cases hacquire : acquire v text with
    | mk w outcome =>
      rw [hacquire] at h
      obtain ⟨rfl, houtcome⟩ := Prod.mk.inj h
      cases outcome with
      | error e => simp [Except.map] at houtcome
      | ok lock =>
        obtain rfl := Except.ok.inj houtcome
        obtain ⟨hcheck, p, hleads, hnode, _⟩ := leads_of_acquire hacquire
        have hextends := extends_acquire v text
        rw [hacquire] at hextends
        exact ⟨rfl, hcheck, p, hleads.mono hextends.keepsDirectories, hnode⟩
  · simp at h

theorem leads_of_openAt {directory : Directory} {create : Bool}
    (h : openAt v text create = (v', .ok directory)) :
    directory.text = text ∧ checkText (lockPath text) = .ok () ∧
      ∃ p, v'.Leads text p ∧ v'.node? (p ++ ["LOCK"]) = some (.file directory.lock) := by
  unfold openAt at h
  split at h
  · exact leads_of_enter h
  · split at h
    · split at h
      · exact leads_of_enter h
      · simp at h
    · simp at h

theorem checkText_of_enter {directory : Directory} (h : enter v text = (v', .ok directory)) :
    checkText text = .ok () := by
  unfold enter at h
  split at h
  · rename_i hleads
    exact (leadsToDirectory_iff.mp hleads).1
  · simp at h

theorem checkText_of_openAt {directory : Directory} {create : Bool}
    (h : openAt v text create = (v', .ok directory)) : checkText text = .ok () := by
  unfold openAt at h
  split at h
  · exact checkText_of_enter h
  · split at h
    · split at h
      · exact checkText_of_enter h
      · simp at h
    · simp at h

end Directory

namespace Engine

open Volume

variable {v v' : Volume} {directory : Directory} {create checks rebuilt : Bool} {p : Path}
  {verdicts : Verdicts} {engine : Engine} {found : Contents}

/-! ## Opening an engine file -/

theorem extends_store (v : Volume) (engine : Engine) (keyspace : Keyspace) :
    v.Extends (engine.store v keyspace) := by
  rcases store_cases v engine keyspace with heq | ⟨id, _, heq⟩
  · rw [heq]
    exact Extends.refl v
  · rw [heq]
    exact extends_setContents v id _

theorem extends_letGo (v : Volume) (engine : Engine) : v.Extends (engine.letGo v) := by
  unfold letGo
  split
  · exact Extends.refl v
  · exact extends_setLocked v _ _

theorem extends_openData (v : Volume) (directory : Directory) (create : Bool)
    (verdicts : Verdicts) : v.Extends (openData v directory create verdicts).1 := by
  unfold openData
  cases hopen : v.openFile (Directory.dataPath directory.text) create with
  | error e => exact Extends.refl v
  | ok opened =>
    have hextends : v.Extends opened.1 := extends_openFile hopen
    simp only
    split
    · exact hextends
    · split
      · exact hextends
      · split
        · exact hextends
        · exact (hextends.trans (extends_setContents _ _ _)).trans (extends_setLocked _ _ _)

theorem extends_openChecked (v : Volume) (directory : Directory) (create checks : Bool)
    (verdicts : Verdicts) :
    v.Extends (openChecked v directory create checks verdicts).1 := by
  have hextends := extends_openData v directory create verdicts
  cases hdata : openData v directory create verdicts with
  | mk w outcome =>
    rw [hdata] at hextends
    cases outcome with
    | error e =>
      rw [openChecked_of_error hdata]
      exact hextends
    | ok opened =>
      obtain ⟨u, hu, hresult⟩ := (ending_openChecked hdata checks).volume_cases
      have hwritten : v.Extends u := by
        rcases hu with rfl | ⟨keyspace, rfl⟩
        · exact hextends
        · exact hextends.trans (extends_store w _ keyspace)
      rcases hresult with heq | heq
      · rw [heq]
        exact hwritten
      · rw [heq]
        exact hwritten.trans (extends_letGo u _)

theorem extends_openIn (v : Volume) (directory : Directory) (options : Options)
    (verdicts : Verdicts) : v.Extends (openIn v directory options verdicts).1 := by
  unfold openIn
  split
  · exact Extends.refl v
  · exact extends_openChecked v directory _ _ verdicts

/-- Opens the engine file that is there. -/
theorem openFile_of_node {text : String} {data : FileId}
    (hcheck : checkText (Directory.dataPath text) = .ok ()) (h : v.Leads text p)
    (hnode : v.node? (p ++ ["data.redb"]) = some (.file data)) (create : Bool) :
    v.openFile (Directory.dataPath text) create = .ok (v, data) := by
  have hopen := openOrCreate_join regular_data hcheck h
  have hexisting := openExisting_join regular_data hcheck h
  rw [hnode] at hopen hexisting
  unfold openFile
  split
  · exact hopen
  · rw [show v.openExisting (Directory.dataPath text) = .ok data from hexisting]
    rfl

/-- An open file is behind the name of the engine file. -/
theorem node?_of_openFile {text : String} {data : FileId} (h : v.Leads text p)
    (hopen : v.openFile (Directory.dataPath text) create = .ok (v', data)) :
    checkText (Directory.dataPath text) = .ok () ∧
      v'.node? (p ++ ["data.redb"]) = some (.file data) := by
  unfold openFile at hopen
  split at hopen
  · exact ⟨(leads_of_openOrCreate regular_data hopen).1,
      (node?_of_openOrCreate regular_data h hopen).1⟩
  · cases hexisting : v.openExisting (Directory.dataPath text) with
    | error e =>
      rw [hexisting] at hopen
      simp [Except.map] at hopen
    | ok found =>
      rw [hexisting] at hopen
      obtain ⟨rfl, rfl⟩ := Prod.mk.inj (Except.ok.inj hopen)
      obtain ⟨hcheck, _⟩ := leads_of_openExisting regular_data hexisting
      refine ⟨hcheck, ?_⟩
      have hjoin := (openExisting_join regular_data hcheck h).symm.trans hexisting
      cases hnode : v.node? (p ++ ["data.redb"]) with
      | none =>
        rw [hnode] at hjoin
        simp at hjoin
      | some node =>
        rw [hnode] at hjoin
        cases node with
        | directory => simp at hjoin
        | file id => rw [Except.ok.inj hjoin]

theorem home_of_openData (h : v.Leads directory.text p)
    (hopen : openData v directory create verdicts = (v', .ok (engine, found))) :
    checkText (Directory.dataPath directory.text) = .ok () ∧
      ∃ data, engine.home = some ⟨directory, data⟩ ∧
        v'.node? (p ++ ["data.redb"]) = some (.file data) := by
  obtain ⟨w, data, m, hfile, _, _, _, _, rfl, rfl⟩ := openData_ok hopen
  obtain ⟨hcheck, hnode⟩ := node?_of_openFile h hfile
  refine ⟨hcheck, data, rfl, ?_⟩
  rw [node?_setLocked, node?_setContents]
  exact hnode

theorem home_of_openChecked (h : v.Leads directory.text p)
    (hopen : openChecked v directory create checks verdicts = (v', rebuilt, .ok engine)) :
    checkText (Directory.dataPath directory.text) = .ok () ∧
      ∃ data, engine.home = some ⟨directory, data⟩ ∧
        v'.node? (p ++ ["data.redb"]) = some (.file data) := by
  obtain ⟨w, opened, found, keyspace, hdata, rfl, rfl, _⟩ := openChecked_ok hopen
  obtain ⟨hcheck, data, hhome, hnode⟩ := home_of_openData h hdata
  exact ⟨hcheck, data, hhome, (extends_store w opened keyspace).node hnode⟩

theorem home_of_openIn {options : Options} (h : v.Leads directory.text p)
    (hopen : openIn v directory options verdicts = (v', rebuilt, .ok engine)) :
    checkText (Directory.dataPath directory.text) = .ok () ∧
      ∃ data, engine.home = some ⟨directory, data⟩ ∧
        v'.node? (p ++ ["data.redb"]) = some (.file data) :=
  home_of_openChecked h (openIn_ok hopen)

end Engine

end OrderedStore
