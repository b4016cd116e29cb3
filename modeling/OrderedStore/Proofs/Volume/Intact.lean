import OrderedStore.Proofs.Volume.Making

/-!
# What is left as it was

A volume leaves the files of an earlier one alone if each of them has the contents and the
lock that it had (`Leaves`).  It is intact for a written path if, besides, no name has gone and
the only new names are those that an attempt to open the database at the path may leave
behind: directories on the way to it, and a lock file with nothing in it (`Intact`).

Both are transitive, so what they say about a call is put together from its steps: directories
are made, a lock file is made, a lock is taken and let go again.

What is done to one file alone is confined to it (`Confines`): the file may be new, or have other
contents, and if it has not, all is as it was (`Confines.unchanged`).
-/

set_option autoImplicit false

namespace OrderedStore.Volume

variable {v v' w : Volume} {text : String} {p : Path} {lock : FileId}

/-! ## Files -/

/-- Every file has the contents and the lock that it had.  One that is new is empty and free. -/
structure Leaves (v v' : Volume) : Prop where
  wellFormed : v'.WellFormed
  contents : ∀ id, v'.contents id = v.contents id
  isLocked : ∀ id, v'.isLocked id = v.isLocked id

theorem Leaves.refl (h : v.WellFormed) : v.Leaves v := ⟨h, fun _ => rfl, fun _ => rfl⟩

theorem Leaves.trans (h : v.Leaves v') (h' : v'.Leaves w) : v.Leaves w where
  wellFormed := h'.wellFormed
  contents id := (h'.contents id).trans (h.contents id)
  isLocked id := (h'.isLocked id).trans (h.isLocked id)

theorem Renames.leaves (hnames : v.Renames v') (h : v.WellFormed) : v.Leaves v' where
  wellFormed := (hnames.spares h).wellFormed
  contents _ := by rw [contents, hnames.files, contents]
  isLocked _ := by rw [Volume.isLocked, hnames.files, Volume.isLocked]

/-- There is nothing in a file that is not there. -/
theorem WellFormed.contents_fresh (h : v.WellFormed) : v.contents v.files.fresh = .raw [] := by
  rw [contents, h.files.get?_fresh]
  rfl

theorem WellFormed.isLocked_fresh (h : v.WellFormed) : v.isLocked v.files.fresh = false := by
  rw [Volume.isLocked, h.files.get?_fresh]
  rfl

theorem leaves_addFile (h : v.WellFormed) (path : Path) : v.Leaves (v.addFile path).1 := by
  refine ⟨h.addFile path, fun id => ?_, fun id => ?_⟩
  · by_cases hid : id = v.files.fresh
    · rw [hid, h.contents_fresh]
      exact contents_addFile v path
    · exact contents_addFile_of_ne v path hid
  · by_cases hid : id = v.files.fresh
    · rw [hid, h.isLocked_fresh]
      exact isLocked_addFile v path
    · exact isLocked_addFile_of_ne v path hid

/-- A lock that was free is free again once it has been let go. -/
theorem leaves_relock (h : v.WellFormed) (hfree : v.isLocked lock = false) :
    v.Leaves ((v.setLocked lock true).setLocked lock false) := by
  refine ⟨(h.setLocked lock true).setLocked lock false, fun id => ?_, fun id => ?_⟩
  · rw [contents_setLocked, contents_setLocked]
  · by_cases hid : id = lock
    · rw [isLocked_setLocked, if_pos hid, Bool.and_false, hid, hfree]
    · rw [isLocked_setLocked_of_ne _ _ hid, isLocked_setLocked_of_ne _ _ hid]

/-! ## Places -/

/-- The place that a written path has, whether the way there is clear or not. -/
def place (v : Volume) (text : String) : Path := (names text).foldl comeTo (v.start text)

theorem Leads.place_eq (h : v.Leads text p) : v.place text = p := h.eq_foldl.symm

theorem place_of_workingDirectory (h : v'.workingDirectory = v.workingDirectory)
    (text : String) : v'.place text = v.place text := by
  rw [place, start_of_workingDirectory h, place]

/-- Is there a lock file at the place of a written path that is held? -/
def Taken (v : Volume) (text : String) : Prop :=
  ∃ lock, v.node? (v.place text ++ ["LOCK"]) = some (.file lock) ∧ v.isLocked lock = true

/-! ## Names -/

/-- Nothing is gone and no file is changed.  Whatever is new is a directory on the way to a
written path, or an empty lock file at its place that nobody holds. -/
structure Intact (text : String) (v v' : Volume) : Prop where
  names : v.Extends v'
  files : v.Leaves v'
  new : ∀ {q : Path} {node : Node}, v'.node? q = some node → v.node? q = none →
    (node = .directory ∧ ∃ other ∈ text :: ancestors text, q = v.place other) ∨
      (q = v.place text ++ ["LOCK"] ∧
        ∃ lock, node = .file lock ∧ v'.contents lock = .raw [] ∧ v'.isLocked lock = false)

/-- Nothing has become of names and files. -/
structure Unchanged (v v' : Volume) : Prop where
  workingDirectory : v'.workingDirectory = v.workingDirectory
  node : ∀ q, v'.node? q = v.node? q
  files : v.Leaves v'

theorem Unchanged.refl (h : v.WellFormed) : v.Unchanged v := ⟨rfl, fun _ => rfl, Leaves.refl h⟩

theorem Unchanged.intact (h : v.Unchanged v') : Intact text v v' where
  names := .of_nodes h.workingDirectory h.node
  files := h.files
  new {q _} hsome hnone := by
    rw [h.node, hnone] at hsome
    simp at hsome

theorem Intact.refl (h : v.WellFormed) : Intact text v v := (Unchanged.refl h).intact

theorem Intact.trans (h : Intact text v v') (h' : Intact text v' w) : Intact text v w := by
  have hplace := place_of_workingDirectory h.names.workingDirectory
  refine ⟨h.names.trans h'.names, h.files.trans h'.files, fun {q node} hsome hnone => ?_⟩
  cases hbetween : v'.node? q with
  | none =>
    have hnew := h'.new hsome hbetween
    simp only [hplace] at hnew
    exact hnew
  | some node' =>
    -- What was new before has stayed as it was.
    obtain rfl : node' = node := Option.some.inj ((h'.names.node hbetween).symm.trans hsome)
    refine (h.new hbetween hnone).imp_right fun ⟨hq, lock, hfile, hempty, hfree⟩ =>
      ⟨hq, lock, hfile, ?_, ?_⟩
    · rw [h'.files.contents, hempty]
    · rw [h'.files.isLocked, hfree]

theorem Intact.place_eq (h : Intact text v v') (other : String) : v'.place other = v.place other :=
  place_of_workingDirectory h.names.workingDirectory other

/-- A lock file that is held was held before. -/
theorem Intact.taken (h : Intact text v v') (htaken : v'.Taken text) : v.Taken text := by
  obtain ⟨lock, hnode, hlocked⟩ := htaken
  rw [h.place_eq] at hnode
  cases hbefore : v.node? (v.place text ++ ["LOCK"]) with
  | some node =>
    have hnode' := h.names.node hbefore
    obtain rfl : node = .file lock := Option.some.inj (hnode'.symm.trans hnode)
    rw [h.files.isLocked] at hlocked
    exact ⟨lock, hbefore, hlocked⟩
  | none =>
    rcases h.new hnode hbefore with ⟨hfile, _⟩ | ⟨_, other, hfile, _, hfree⟩
    · simp at hfile
    · obtain rfl := Node.file.inj hfile
      rw [hfree] at hlocked
      exact absurd hlocked Bool.false_ne_true

/-! ## Steps -/

theorem intact_makeDirectory {other : String} (h : v.WellFormed)
    (hother : other ∈ text :: ancestors text) (hmake : v.makeDirectory other = .ok v') :
    Intact text v v' := by
  have hleaves := (Renames.of_makeDirectory hmake).leaves h
  obtain ⟨path, slashed, htarget, hnone, rfl⟩ := makeDirectory_cases hmake
  have hne : path ≠ [] := by
    rintro rfl
    simp [node?] at hnone
  refine ⟨extends_link hnone .directory, hleaves, fun {q node} hsome hbefore => Or.inl ?_⟩
  rw [node?_link v path _ hne, hbefore] at hsome
  split at hsome
  · rename_i hq
    exact ⟨(Option.some.inj hsome).symm, other, hother, hq.trans (place_of_target htarget)⟩
  · simp at hsome

theorem intact_makeDirectories (h : v.WellFormed) (text : String) :
    Intact text v (v.makeDirectories text).1 :=
  makeDirectories_rel (R := fun v v' => v.WellFormed → Intact text v v')
    (fun _ => Intact.refl)
    (fun h h' hwell => (h hwell).trans (h' (h hwell).files.wellFormed))
    (fun _ hother _ _ hmake hwell => intact_makeDirectory hwell hother hmake) v h

theorem intact_addFile (h : v.WellFormed) (hleads : v.Leads text p)
    (hnone : v.node? (p ++ ["LOCK"]) = none) :
    Intact text v (v.addFile (p ++ ["LOCK"])).1 := by
  have hnode := node?_addFile v (p ++ ["LOCK"]) (by simp)
  refine ⟨extends_addFile hnone, leaves_addFile h _, fun {q node} hsome hbefore => Or.inr ?_⟩
  rw [hnode, hbefore] at hsome
  split at hsome
  · rename_i hq
    refine ⟨by rw [hleads.place_eq, hq], v.files.fresh, (Option.some.inj hsome).symm,
      contents_addFile v _, isLocked_addFile v _⟩
  · simp at hsome

theorem unchanged_relock (h : v.WellFormed) (hfree : v.isLocked lock = false) :
    v.Unchanged ((v.setLocked lock true).setLocked lock false) :=
  ⟨rfl, fun q => by rw [node?_setLocked, node?_setLocked], leaves_relock h hfree⟩

theorem intact_relock (h : v.WellFormed) (hfree : v.isLocked lock = false) :
    Intact text v ((v.setLocked lock true).setLocked lock false) :=
  (unchanged_relock h hfree).intact

/-! ## The lock file -/

/-- A volume once there is a lock file in the directory `p`, which is made if it is missing. -/
inductive Readies (v : Volume) (p : Path) : FileId → Volume → Prop where
  | there {lock : FileId} (node : v.node? (p ++ ["LOCK"]) = some (.file lock)) :
    Readies v p lock v
  | made (none : v.node? (p ++ ["LOCK"]) = none) :
    Readies v p v.files.fresh (v.addFile (p ++ ["LOCK"])).1

/-- Unless something else stands in its place, or somebody has it, a lock file can be had. -/
theorem exists_readies (h : ∀ node, v.node? (p ++ ["LOCK"]) = some node →
    ∃ lock, node = .file lock ∧ v.isLocked lock = false) :
    ∃ w lock, v.Readies p lock w ∧ w.isLocked lock = false := by
  cases hnode : v.node? (p ++ ["LOCK"]) with
  | none => exact ⟨_, _, .made hnode, isLocked_addFile v _⟩
  | some node =>
    obtain ⟨lock, rfl, hfree⟩ := h node hnode
    exact ⟨v, lock, .there hnode, hfree⟩

theorem Readies.node (h : v.Readies p lock w) : w.node? (p ++ ["LOCK"]) = some (.file lock) := by
  cases h with
  | there node => exact node
  | made none => rw [node?_addFile v _ (by simp), if_pos rfl]

theorem Readies.intact (h : v.Readies p lock w) (hwell : v.WellFormed) (hleads : v.Leads text p) :
    Intact text v w := by
  cases h with
  | there node => exact Intact.refl hwell
  | made none => exact intact_addFile hwell hleads none

/-- All other names lead where they led. -/
theorem Readies.node?_of_ne (h : v.Readies p lock w) {q : Path} (hq : q ≠ p ++ ["LOCK"]) :
    w.node? q = v.node? q := by
  cases h with
  | there node => rfl
  | made none => rw [node?_addFile v _ (by simp), if_neg hq]

/-- If the lock file is made beforehand, the lock is had all the same. -/
theorem Readies.acquire_eq (h : v.Readies p lock w)
    (hcheck : checkText (Directory.lockPath text) = .ok ()) (hleads : v.Leads text p) :
    Directory.acquire v text = Directory.acquire w text := by
  cases h with
  | there _ => rfl
  | made hnone =>
    have hopen := openOrCreate_join regular_lock hcheck hleads
    have hagain := openOrCreate_join regular_lock hcheck
      (hleads.mono (extends_addFile hnone).keepsDirectories)
    rw [hnone] at hopen
    rw [node?_addFile v _ (by simp), if_pos rfl] at hagain
    unfold Directory.acquire
    rw [show v.openOrCreate (Directory.lockPath text) = .ok (v.addFile (p ++ ["LOCK"])) from hopen,
      show (v.addFile (p ++ ["LOCK"])).1.openOrCreate (Directory.lockPath text) =
        .ok ((v.addFile (p ++ ["LOCK"])).1, v.files.fresh) from hagain]
    rfl

/-! ## One file -/

/-- Nothing is gone and no lock is changed, and what else has changed is the file with the name
`path`: it may be new, or have other contents, if nobody holds it. -/
structure Confines (path : Path) (v v' : Volume) : Prop where
  names : v.Extends v'
  wellFormed : v'.WellFormed
  isLocked : ∀ id, v'.isLocked id = v.isLocked id
  contents : ∀ id, v'.contents id = v.contents id ∨
    v.isLocked id = false ∧ v'.node? path = some (.file id)
  new : ∀ {q : Path} {node : Node}, v'.node? q = some node → v.node? q = none →
    q = path ∧ ∃ id, node = .file id ∧ v'.isLocked id = false

section Confines

variable {path : Path} {data : FileId}

theorem Confines.refl (h : v.WellFormed) (path : Path) : v.Confines path v where
  names := Extends.refl v
  wellFormed := h
  isLocked _ := rfl
  contents _ := Or.inl rfl
  new hsome hnone := by
    rw [hnone] at hsome
    simp at hsome

theorem confines_addFile (h : v.WellFormed) (hne : path ≠ []) (hnone : v.node? path = none) :
    v.Confines path (v.addFile path).1 where
  names := extends_addFile hnone
  wellFormed := h.addFile path
  isLocked := (leaves_addFile h path).isLocked
  contents id := Or.inl ((leaves_addFile h path).contents id)
  new {q node} hsome hbefore := by
    rw [node?_addFile v path hne, hbefore] at hsome
    split at hsome
    · rename_i hq
      exact ⟨hq, _, (Option.some.inj hsome).symm, isLocked_addFile v path⟩
    · simp at hsome

/-- A file that is held is not written. -/
theorem Confines.contents_of_held (h : v.Confines path v') {id : FileId}
    (hheld : v.isLocked id = true) : v'.contents id = v.contents id := by
  refine (h.contents id).resolve_right fun ⟨hfree, _⟩ => ?_
  rw [hheld] at hfree
  exact Bool.noConfusion hfree

/-- Writing into the file. -/
theorem Confines.setContents (h : v.Confines path v') (hnode : v'.node? path = some (.file data))
    (hfree : v'.isLocked data = false) (c : Contents) :
    v.Confines path (v'.setContents data c) where
  names := h.names.trans (extends_setContents v' data c)
  wellFormed := h.wellFormed.setContents data c
  isLocked id := by rw [isLocked_setContents, h.isLocked]
  contents id := by
    by_cases hid : id = data
    · rw [hid, ← h.isLocked, node?_setContents]
      exact Or.inr ⟨hfree, hnode⟩
    · rw [contents_setContents, if_neg fun hboth => hid hboth.1, node?_setContents]
      exact h.contents id
  new {q node} hsome hnone := by
    rw [node?_setContents] at hsome
    obtain ⟨hq, id, hnode, hid⟩ := h.new hsome hnone
    exact ⟨hq, id, hnode, by rw [isLocked_setContents, hid]⟩

theorem Confines.congr (h : v.Confines path w) (hsame : w.Unchanged v') : v.Confines path v' where
  names := h.names.trans (.of_nodes hsame.workingDirectory hsame.node)
  wellFormed := hsame.files.wellFormed
  isLocked id := (hsame.files.isLocked id).trans (h.isLocked id)
  contents id := by
    rw [hsame.files.contents, hsame.node]
    exact h.contents id
  new {q node} hsome hnone := by
    rw [hsame.node] at hsome
    obtain ⟨hq, id, hid, hfree⟩ := h.new hsome hnone
    exact ⟨hq, id, hid, (hsame.files.isLocked id).trans hfree⟩

/-- What is done under a lock that is taken and let go again. -/
theorem Confines.relock (h : (v.setLocked lock true).Confines path v')
    (hfree : v.isLocked lock = false) : v.Confines path (v'.setLocked lock false) where
  names := ((extends_setLocked v lock true).trans h.names).trans (extends_setLocked v' lock false)
  wellFormed := h.wellFormed.setLocked lock false
  isLocked id := by
    by_cases hid : id = lock
    · rw [isLocked_setLocked, if_pos hid, Bool.and_false, hid, hfree]
    · rw [isLocked_setLocked_of_ne _ _ hid, h.isLocked, isLocked_setLocked_of_ne _ _ hid]
  contents id := by
    rw [contents_setLocked, node?_setLocked]
    refine (h.contents id).imp (fun hsame => by rw [hsame, contents_setLocked]) fun hother => ?_
    by_cases hid : id = lock
    · exact ⟨hid ▸ hfree, hother.2⟩
    · rw [isLocked_setLocked_of_ne _ _ hid] at hother
      exact hother
  new {q node} hsome hnone := by
    rw [node?_setLocked] at hsome
    obtain ⟨hq, id, hnode, hid⟩ := h.new hsome (by rw [node?_setLocked, hnone])
    refine ⟨hq, id, hnode, ?_⟩
    rw [isLocked_setLocked, hid]
    split
    · exact Bool.and_false _
    · rfl

/-- Where the file is as it was, everything is. -/
theorem Confines.unchanged (h : v.Confines path v')
    (hcontents : ∀ id, v'.contents id = v.contents id)
    (hnode : v.node? path = none → v'.node? path = none) : v.Unchanged v' where
  workingDirectory := h.names.workingDirectory
  node q := by
    cases hbefore : v.node? q with
    | some node => exact h.names.node hbefore
    | none =>
      refine Option.eq_none_iff_forall_ne_some.mpr fun node hsome => ?_
      obtain ⟨rfl, _⟩ := h.new hsome hbefore
      rw [hnode hbefore] at hsome
      simp at hsome
  files := ⟨h.wellFormed, hcontents, h.isLocked⟩

end Confines

/-! ## Attempts -/

/-- A volume on which somebody has tried to open the database at a path: directories on the way
and a lock file may be new, and besides only the engine file may have changed. -/
def Tried (text : String) (v v' : Volume) : Prop :=
  ∃ w, Intact text v w ∧ w.Confines (v.place text ++ ["data.redb"]) v'

theorem Intact.tried (h : Intact text v v') : Tried text v v' :=
  ⟨v', h, Confines.refl h.files.wellFormed _⟩

namespace Tried

theorem names (h : Tried text v v') : v.Extends v' := by
  obtain ⟨w, hintact, hconfines⟩ := h
  exact hintact.names.trans hconfines.names

theorem wellFormed (h : Tried text v v') : v'.WellFormed := by
  obtain ⟨w, _, hconfines⟩ := h
  exact hconfines.wellFormed

theorem isLocked (h : Tried text v v') (id : FileId) : v'.isLocked id = v.isLocked id := by
  obtain ⟨w, hintact, hconfines⟩ := h
  rw [hconfines.isLocked, hintact.files.isLocked]

theorem contents_of_held (h : Tried text v v') {id : FileId} (hheld : v.isLocked id = true) :
    v'.contents id = v.contents id := by
  obtain ⟨w, hintact, hconfines⟩ := h
  rw [hconfines.contents_of_held ((hintact.files.isLocked id).trans hheld), hintact.files.contents]

/-- A lock file that is held was held before. -/
theorem taken (h : Tried text v v') (htaken : v'.Taken text) : v.Taken text := by
  obtain ⟨w, hintact, hconfines⟩ := h
  obtain ⟨lock, hnode, hlocked⟩ := htaken
  rw [place_of_workingDirectory hconfines.names.workingDirectory] at hnode
  refine hintact.taken ⟨lock, ?_, (hconfines.isLocked lock).symm.trans hlocked⟩
  cases hbefore : w.node? (w.place text ++ ["LOCK"]) with
  | some node => rw [← hnode, hconfines.names.node hbefore]
  | none =>
    have hpath := (hconfines.new hnode hbefore).1
    rw [hintact.place_eq] at hpath
    simp at hpath

end Tried

end OrderedStore.Volume
