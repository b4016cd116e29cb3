import OrderedStore.Proofs.Attempt
import OrderedStore.Proofs.Rest

/-!
# What destroying a database removes

`destroy_exact` says what becomes of a volume when the database at a path is destroyed.  If
that succeeds, the lock file and the engine file are gone, the directory has gone with
them if it held nothing else, everything else is as it was, and destroying once more does
nothing.  If it fails, nothing has been removed.

There is one exception.  A path can be so long that with the name of the lock file it is
still taken by the file system, but with the name of the engine file it is not.  The engine file
then counts for absent, so it is left behind, and the outcome is a success all the same
(`owned`, `engine_file_outlives_destroy`).
-/

set_option autoImplicit false

namespace OrderedStore

namespace Volume

variable {v v' w : Volume} {text name : String} {init : List String} {p : Path}

/-! ## Directories that are called by their name -/

/-- A written path ends with a name, and not with one or two dots. -/
def EndsInName (text : String) : Prop :=
  ∃ init name, names text = init ++ [name] ∧ name ≠ "." ∧ name ≠ ".."

theorem node?_of_mem {path : Path} {node : Node} (hne : path ≠ [])
    (h : (path, node) ∈ v.nodes) : v.node? path ≠ none := by
  unfold node?
  split
  · exact absurd rfl hne
  · rw [Ne, Option.map_eq_none_iff, List.find?_eq_none]
    exact fun hnone => hnone _ h (decide_eq_true rfl)

/-- A directory is empty if no name is in it. -/
theorem hasChild_eq_false_iff : v.hasChild p = false ↔ ∀ name, v.node? (p ++ [name]) = none := by
  constructor
  · intro hchild name
    cases hnode : v.node? (p ++ [name]) with
    | none => rfl
    | some node =>
      rw [hasChild_of_node? hnode] at hchild
      exact absurd hchild Bool.noConfusion
  · intro hnone
    refine List.any_eq_false.mpr fun ⟨path, node⟩ hmem hentry => ?_
    obtain ⟨hne, hparent⟩ : path ≠ [] ∧ path.dropLast = p := by simpa using hentry
    obtain ⟨name, hname⟩ : ∃ name, path = p ++ [name] :=
      ⟨path.getLast hne, by rw [← hparent, List.dropLast_append_getLast]⟩
    exact node?_of_mem hne hmem (hname ▸ hnone name)

/-- A path that ends with a name leads to a directory of that name. -/
theorem Leads.concat (h : v.Leads text p) (hnames : names text = init ++ [name])
    (hdot : name ≠ ".") (hdots : name ≠ "..") :
    ∃ here, v.walk (v.start text) init = .ok here ∧ checkName name = .ok () ∧
      v.node? p = some .directory ∧ p = here ++ [name] := by
  unfold Leads at h
  rw [hnames] at h
  obtain ⟨here, hwalk, henter⟩ := walk_concat_eq_ok_iff.mp h
  obtain ⟨hname, hnode, rfl⟩ := (enter_eq_ok_iff hdot hdots).mp henter
  exact ⟨here, hwalk, hname, hnode, rfl⟩

theorem EndsInName.ne_empty (hname : EndsInName text) : text ≠ "" := by
  rintro rfl
  obtain ⟨init, name, hnames, _⟩ := hname
  rw [names_empty] at hnames
  exact absurd hnames.symm (by simp)

/-- If the path of the engine file is taken, so is that of the directory. -/
theorem EndsInName.check (hname : EndsInName text)
    (h : checkText (Directory.dataPath text) = .ok ()) : checkText text = .ok () := by
  obtain ⟨stem, hjoin, hstem⟩ := toList_join text "data.redb"
  obtain ⟨rest, rfl⟩ := hstem hname.ne_empty
  refine checkText_of_sublist h ?_ hname.ne_empty
  rw [Directory.dataPath, hjoin, List.append_assoc]
  exact List.sublist_append_left _ _

/-- A file is found at the place of a path. -/
theorem place_of_find {path : Path} {id : FileId} (h : v.find text = .ok (path, .file id)) :
    path = v.place text := by
  rw [find_eq] at h
  cases htarget : v.target text with
  | error e =>
    rw [htarget] at h
    simp [Except.bind] at h
  | ok target =>
    rw [htarget] at h
    cases target with
    | here _ => simp [Except.bind] at h
    | above _ => simp [Except.bind] at h
    | entry found slashed =>
      rw [← show found = path from ?_]
      · exact place_of_target htarget
      · simp only [Except.bind] at h
        split at h
        · simp at h
        · split at h
          · simp at h
          · simp at h
          · split at h
            · simp at h
            · exact (Prod.mk.inj (Except.ok.inj h)).1

theorem EndsInName.node? (hname : EndsInName text) (h : v.Leads text p) :
    p ≠ [] ∧ v.node? p = some .directory := by
  obtain ⟨init, name, hnames, hdot, hdots⟩ := hname
  obtain ⟨here, _, _, hnode, rfl⟩ := h.concat hnames hdot hdots
  exact ⟨by simp, hnode⟩

/-- By its name a directory is removed if there is nothing in it. -/
theorem EndsInName.removeDirectory (hname : EndsInName text) (hcheck : checkText text = .ok ())
    (h : v.Leads text p) :
    v.removeDirectory text = if v.hasChild p then .error .notEmpty else .ok (v.unlink p) := by
  obtain ⟨init, name, hnames, hdot, hdots⟩ := hname
  obtain ⟨here, hwalk, hname, hnode, rfl⟩ := h.concat hnames hdot hdots
  unfold Volume.removeDirectory
  rw [target_of_names hcheck hnames hdot hdots, hwalk]
  simp only [Except.map, bind, Except.bind, checkLast_concat, hname, hnode]
  rfl

/-! ## An example -/

/-- A volume with a database that is closed. -/
def furnished : Volume :=
  ⟨[(["db"], .directory), (["db", "data.redb"], .file ⟨0⟩)],
    ⟨1, [(⟨0⟩, ⟨.image .empty, false⟩)]⟩, []⟩

theorem wellFormed_furnished : furnished.WellFormed where
  files := ⟨by simp [furnished], by simp [furnished]⟩
  present hmem := by
    obtain ⟨_, rfl⟩ : _ ∧ _ = _ := by simpa [furnished] using hmem
    rfl

theorem free_furnished (id : FileId) : furnished.isLocked id = false := by
  by_cases hid : id = ⟨0⟩
  · rw [hid]
    rfl
  · simp [Volume.isLocked, furnished, Table.get?, Ne.symm hid]

end Volume

open Volume

namespace Removal

/-- What is finished stays as it is. -/
theorem steps_finished (text : String) (n : Nat) (v : Volume) (outcome : Except Error Unit) :
    steps text n v (.finished outcome) = (v, .finished outcome) := by
  induction n with
  | zero => rfl
  | succ n ih => exact ih

end Removal

namespace Directory

variable {v v' w : Volume} {text : String} {p : Path} {lock : FileId} {e : Error}

/-! ## What goes -/

/-- The names that are removed from the directory of a database: the engine file is
among them if its path is one that the file system takes. -/
def owned (text : String) : List String :=
  if checkText (dataPath text) = .ok () then ["LOCK", "data.redb"] else ["LOCK"]

theorem mem_owned_lock (text : String) : "LOCK" ∈ owned text := by
  unfold owned
  split <;> exact List.mem_cons_self

theorem mem_owned_data (h : checkText (dataPath text) = .ok ()) : "data.redb" ∈ owned text := by
  unfold owned
  rw [if_pos h]
  exact List.mem_cons_of_mem _ List.mem_cons_self

/-- What makes a database ready to be destroyed: its directory is there, its lock is to be had
and its engine file is none that cannot be removed. -/
structure Removable (v : Volume) (text : String) (p : Path) : Prop where
  check : checkText text = .ok ()
  fits : checkText (lockPath text) = .ok ()
  leads : v.Leads text p
  lock : ∀ node, v.node? (p ++ ["LOCK"]) = some node →
    ∃ lock, node = .file lock ∧ v.isLocked lock = false
  data : checkText (dataPath text) = .ok () → v.node? (p ++ ["data.redb"]) ≠ some .directory

theorem Removable.ne_directory (h : Removable v text p) {name : String}
    (hmem : name ∈ owned text) : v.node? (p ++ [name]) ≠ some .directory := by
  have hlock : v.node? (p ++ ["LOCK"]) ≠ some .directory := by
    intro hnode
    obtain ⟨lock, hfile, _⟩ := h.lock _ hnode
    simp at hfile
  unfold owned at hmem
  split at hmem
  · rename_i hfits
    rcases List.mem_cons.mp hmem with rfl | hmem
    · exact hlock
    · rw [List.mem_singleton.mp hmem]
      exact h.data hfits
  · rw [List.mem_singleton.mp hmem]
    exact hlock

/-- The database in the directory `p` is gone. -/
structure Demolished (v : Volume) (text : String) (p : Path) (v' : Volume) : Prop where
  workingDirectory : v'.workingDirectory = v.workingDirectory
  files : v.Leaves v'
  gone : ∀ name ∈ owned text, v'.node? (p ++ [name]) = none
  others : ∀ q, q ≠ p → (∀ name ∈ owned text, q ≠ p ++ [name]) → v'.node? q = v.node? q
  removed : (∀ name, name ∉ owned text → v.node? (p ++ [name]) = none) → v'.node? p = none
  left : ∀ name, name ∉ owned text → v.node? (p ++ [name]) ≠ none → v'.node? p = v.node? p

theorem Demolished.keepsDirectories (h : Removable v text p) (hgone : Demolished v text p v')
    (hleft : v'.node? p = v.node? p) : v.KeepsDirectories v' := by
  refine ⟨hgone.workingDirectory, fun {q} hq => ?_⟩
  by_cases hplace : q = p
  · rw [hplace, hleft, ← hplace, hq]
  · rw [hgone.others q hplace fun name hmem heq => h.ne_directory hmem (heq ▸ hq), hq]

/-- The volume without the names of a database whose lock was free. -/
def stripped (v : Volume) (text : String) (p : Path) (lock : FileId) : Volume :=
  if checkText (dataPath text) = .ok () then emptied v p lock
  else ((v.setLocked lock true).setLocked lock false).unlink (p ++ ["LOCK"])

theorem node?_stripped (v : Volume) (text : String) (p : Path) (lock : FileId) (q : Path) :
    (stripped v text p lock).node? q =
      if ∃ name ∈ owned text, q = p ++ [name] then none else v.node? q := by
  unfold stripped owned
  split
  · rw [node?_emptied]
    by_cases hlock : q = p ++ ["LOCK"]
    · simp [hlock]
    · by_cases hdata : q = p ++ ["data.redb"]
      · simp [hdata]
      · simp [hlock, hdata]
  · rw [node?_unlink _ _ (by simp), node?_setLocked, node?_setLocked]
    simp

theorem leaves_stripped (h : v.WellFormed) (hfree : v.isLocked lock = false) (text : String)
    (p : Path) : v.Leaves (stripped v text p lock) := by
  have hrelocked := leaves_relock h hfree
  -- Only names go, while the lock is held or afterwards.
  have hrenames : ((v.setLocked lock true).setLocked lock false).Renames
      (stripped v text p lock) := by
    unfold stripped
    split
    · exact ⟨rfl, fun hmem => List.mem_of_mem_filter (List.mem_of_mem_filter hmem)⟩
    · exact renames_unlink _ _
  exact hrelocked.trans (hrenames.leaves hrelocked.wellFormed)

theorem keepsDirectories_stripped (hlock : v.node? (p ++ ["LOCK"]) = some (.file lock))
    (hdata : checkText (dataPath text) = .ok () → v.node? (p ++ ["data.redb"]) ≠ some .directory) :
    v.KeepsDirectories (stripped v text p lock) := by
  unfold stripped
  split
  · rename_i hfits
    exact keepsDirectories_emptied hlock (hdata hfits)
  · refine ⟨rfl, fun {q} hq => ?_⟩
    rw [node?_unlink _ _ (by simp), node?_setLocked, node?_setLocked, if_neg]
    · exact hq
    · rintro rfl
      simp [hlock] at hq

theorem workingDirectory_stripped (v : Volume) (text : String) (p : Path) (lock : FileId) :
    (stripped v text p lock).workingDirectory = v.workingDirectory := by
  unfold stripped
  split <;> rfl

/-- Where the lock file is there and free, the names go and the directory if it can. -/
theorem destroy_eq_stripped (h : Removable v text p)
    (hnode : v.node? (p ++ ["LOCK"]) = some (.file lock)) (hfree : v.isLocked lock = false) :
    destroy v text =
      (((stripped v text p lock).removeDirectory text).toOption.getD (stripped v text p lock),
        .ok ()) := by
  have hthere := isThere_of_leads h.check h.leads
  unfold stripped
  split
  · rename_i hfits
    exact destroy_of_free hthere hfits h.leads hnode hfree (h.data hfits)
  · rename_i hlong
    have hnot : ∀ u : Volume, u.isThere (dataPath text) = false := by
      intro u
      cases hdata : u.isThere (dataPath text) with
      | false => rfl
      | true => exact absurd (checkText_of_isThere hdata) hlong
    refine destroy_of_emptied hthere h.fits h.leads hnode hfree ?_
      (extends_setLocked v lock true).keepsDirectories ((node?_setLocked v lock true _).trans hnode)
    simp only [Removal.step, hnot]
    rfl

theorem ne_concat (p : Path) (name : String) : p ≠ p ++ [name] :=
  fun heq => by simpa using congrArg List.length heq

theorem concat_ne_of_not_mem {name : String} (hnot : name ∉ owned text) :
    ∀ other ∈ owned text, p ++ [name] ≠ p ++ [other] := by
  rintro other hmem heq
  exact hnot ((List.cons.inj (List.append_cancel_left heq)).1 ▸ hmem)

/-- With a lock file that is there and free, a database is destroyed. -/
theorem destroy_of_lock (hwell : v.WellFormed) (hname : EndsInName text)
    (h : Removable v text p) (hnode : v.node? (p ++ ["LOCK"]) = some (.file lock))
    (hfree : v.isLocked lock = false) :
    ∃ v', destroy v text = (v', .ok ()) ∧ Demolished v text p v' := by
  obtain ⟨hne, _⟩ := hname.node? h.leads
  have hleaves := leaves_stripped hwell hfree text p
  have hworking := workingDirectory_stripped v text p lock
  have hgone : ∀ name ∈ owned text, (stripped v text p lock).node? (p ++ [name]) = none :=
    fun name hmem => by rw [node?_stripped, if_pos ⟨name, hmem, rfl⟩]
  have hkept : ∀ q, (∀ name ∈ owned text, q ≠ p ++ [name]) →
      (stripped v text p lock).node? q = v.node? q :=
    fun q hq => by rw [node?_stripped, if_neg fun ⟨name, hmem, heq⟩ => hq name hmem heq]
  have hremove := hname.removeDirectory h.check
    (h.leads.mono (keepsDirectories_stripped hnode h.data))
  refine ⟨_, destroy_eq_stripped h hnode hfree, ?_⟩
  rw [hremove]
  by_cases hchild : (stripped v text p lock).hasChild p = true
  · rw [if_pos hchild]
    refine ⟨hworking, hleaves, hgone, fun q _ hq => hkept q hq, fun hnone => ?_,
      fun _ _ _ => hkept p fun name _ => ne_concat p name⟩
    -- Without another name in it, the directory would be empty now.
    have hempty : (stripped v text p lock).hasChild p = false := by
      refine hasChild_eq_false_iff.mpr fun name => ?_
      by_cases hmem : name ∈ owned text
      · exact hgone name hmem
      · rw [hkept _ (concat_ne_of_not_mem hmem), hnone name hmem]
    rw [hempty] at hchild
    exact absurd hchild Bool.false_ne_true
  · rw [Bool.not_eq_true] at hchild
    rw [hchild, if_neg Bool.false_ne_true]
    have hempty := hasChild_eq_false_iff.mp hchild
    have hunlink := node?_unlink (stripped v text p lock) p hne
    refine ⟨hworking, hleaves.trans ((renames_unlink _ p).leaves hleaves.wellFormed),
      fun name hmem => ?_, fun q hq hnot => ?_, fun _ => ?_, fun name hnot hsome => ?_⟩
    · exact (hunlink _).trans ((if_neg (ne_concat p name).symm).trans (hgone name hmem))
    · exact (hunlink q).trans ((if_neg hq).trans (hkept q hnot))
    · exact (hunlink p).trans (if_pos rfl)
    · exact absurd ((hkept _ (concat_ne_of_not_mem hnot)).symm.trans (hempty name)) hsome

/-- A lock file that is made to be held for a moment makes no difference. -/
theorem Demolished.of_readies (hwell : v.WellFormed) (hleads : v.Leads text p)
    (hreadies : v.Readies p lock w) (h : Demolished w text p v') : Demolished v text p v' := by
  have hready := hreadies.intact hwell hleads
  have hlock := mem_owned_lock text
  have hother : ∀ {name : String}, name ∉ owned text →
      w.node? (p ++ [name]) = v.node? (p ++ [name]) :=
    fun hnot => hreadies.node?_of_ne (concat_ne_of_not_mem hnot _ hlock)
  refine ⟨h.workingDirectory.trans hready.names.workingDirectory, hready.files.trans h.files,
    h.gone, fun q hq hnot => ?_, fun hnone => ?_, fun name hnot hsome => ?_⟩
  · rw [h.others q hq hnot, hreadies.node?_of_ne (hnot _ hlock)]
  · exact h.removed fun name hnot => (hother hnot).trans (hnone name hnot)
  · rw [← hother hnot] at hsome
    rw [h.left name hnot hsome, hreadies.node?_of_ne (ne_concat p "LOCK")]

/-- If the lock file is missing, it may be made beforehand. -/
theorem Removable.prepare (h : Removable v text p) (hwell : v.WellFormed) :
    ∃ w lock, v.Readies p lock w ∧ w.isLocked lock = false ∧ w.WellFormed ∧
      Removable w text p ∧ destroy v text = destroy w text := by
  obtain ⟨w, lock, hreadies, hfree⟩ := exists_readies h.lock
  have hready := hreadies.intact hwell h.leads
  have hleads := h.leads.mono hready.names.keepsDirectories
  refine ⟨w, lock, hreadies, hfree, hready.files.wellFormed,
    ⟨h.check, h.fits, hleads, fun node hnode => ?_, fun hfits => ?_⟩,
    destroy_congr h.check h.leads hleads (hreadies.acquire_eq h.fits h.leads)⟩
  · rw [hreadies.node] at hnode
    exact ⟨lock, (Option.some.inj hnode).symm, hfree⟩
  · rw [hreadies.node?_of_ne (by simp)]
    exact h.data hfits

/-- A database that can be destroyed is. -/
theorem destroy_of_removable (hwell : v.WellFormed) (hname : EndsInName text)
    (h : Removable v text p) :
    ∃ v', destroy v text = (v', .ok ()) ∧ Demolished v text p v' := by
  obtain ⟨w, lock, hreadies, hfree, hwell', hremovable, hsame⟩ := h.prepare hwell
  obtain ⟨v', hdestroy, hgone⟩ := destroy_of_lock hwell' hname hremovable hreadies.node hfree
  exact ⟨v', hsame.trans hdestroy, hgone.of_readies hwell h.leads hreadies⟩

/-! ## What happens otherwise -/

theorem io_of_acquire (h : acquire v text = (v', .error e)) : ∃ message, e = .io message := by
  unfold acquire at h
  split at h
  · exact ⟨_, (Except.error.inj (Prod.mk.inj h).2).symm⟩
  · split at h
    · exact ⟨_, (Except.error.inj (Prod.mk.inj h).2).symm⟩
    · simp at h

theorem destroy_of_acquire (hthere : v.isThere text = true)
    (h : acquire v text = (v', .error e)) : destroy v text = (v', .error e) := by
  have hstep : Removal.step text v .begun = (v', .finished (.error e)) := by
    simp only [Removal.step, hthere, h]
    rfl
  unfold destroy Removal.length
  rw [Removal.steps_succ, hstep, Removal.steps_finished]
  rfl

/-- A directory under the name of the engine file is not removed as a file is. -/
theorem destroy_of_directory (hthere : v.isThere text = true)
    (h : acquire v text = (v', .ok lock)) (hfits : checkText (dataPath text) = .ok ())
    (hleads : v'.Leads text p) (hnode : v'.node? (p ++ ["data.redb"]) = some .directory) :
    destroy v text = (v'.setLocked lock false, .error (failure .isDirectory)) := by
  have hdata := isThere_join regular_data hfits hleads
  have hremove := removeFile_join regular_data hfits hleads
  rw [hnode] at hdata hremove
  have hbegun : Removal.step text v .begun = (v', .locked lock) := by
    simp only [Removal.step, hthere, h]
    rfl
  have hlocked : Removal.step text v' (.locked lock) =
      (v'.setLocked lock false, .finished (.error (failure .isDirectory))) := by
    simp only [Removal.step]
    rw [show v'.isThere (dataPath text) = true from hdata, if_pos rfl,
      show v'.removeFile (dataPath text) = _ from hremove]
  unfold destroy Removal.length
  rw [Removal.steps_succ, hbegun, Removal.steps_succ, hlocked, Removal.steps_finished]
  rfl

/-- A database is missing, or is destroyed, or is left intact. -/
theorem destroy_cases (hwell : v.WellFormed) (text : String) :
    (v.isThere text = false ∧ destroy v text = (v, .ok ())) ∨
      (∃ v' e, destroy v text = (v', .error e) ∧ Intact text v v') ∨
        ∃ p, Removable v text p := by
  cases hthere : v.isThere text with
  | false => exact Or.inl ⟨rfl, destroy_of_missing hthere⟩
  | true =>
    cases hacquire : acquire v text with
    | mk u outcome =>
      cases outcome with
      | error e =>
        obtain ⟨rfl, _⟩ := acquire_error hacquire
        exact Or.inr (Or.inl ⟨u, e, destroy_of_acquire hthere hacquire, Intact.refl hwell⟩)
      | ok lock =>
        obtain ⟨hfits, _⟩ := leads_of_acquire hacquire
        obtain ⟨p, w, hleads, hreadies, hfree, rfl⟩ := acquire_ok hacquire
        have hintact := hreadies.intact hwell hleads
        have hextends := hintact.names.trans (extends_setLocked w lock true)
        by_cases hdata : checkText (dataPath text) = .ok () ∧
            v.node? (p ++ ["data.redb"]) = some .directory
        · exact Or.inr (Or.inl ⟨_, _, destroy_of_directory hthere hacquire hdata.1
            (hleads.mono hextends.keepsDirectories) (hextends.node hdata.2),
            hintact.trans (intact_relock hintact.files.wellFormed hfree)⟩)
        · refine Or.inr (Or.inr ⟨p, checkText_of_isThere hthere, hfits, hleads,
            fun node hnode => ?_, fun hdataFits hnode => hdata ⟨hdataFits, hnode⟩⟩)
          cases hreadies with
          | there hlock =>
            rw [hlock] at hnode
            exact ⟨lock, (Option.some.inj hnode).symm, hfree⟩
          | made hnone =>
            rw [hnone] at hnode
            simp at hnode

/-- However a path ends, destroying the database there changes no file and no lock. -/
theorem leaves_destroy (hwell : v.WellFormed) (text : String) :
    v.Leaves (destroy v text).1 := by
  rcases destroy_cases hwell text with ⟨_, hdestroy⟩ | ⟨v', e, hdestroy, hintact⟩ | ⟨p, h⟩
  · rw [hdestroy]
    exact Leaves.refl hwell
  · rw [hdestroy]
    exact hintact.files
  · obtain ⟨w, lock, hreadies, hfree, hwell', hremovable, hsame⟩ := h.prepare hwell
    have hready := (hreadies.intact hwell h.leads).files
    have hleaves := hready.trans (leaves_stripped hwell' hfree text p)
    rw [hsame, destroy_eq_stripped hremovable hreadies.node hfree]
    rcases removed_cases (stripped w text p lock) text with hkept | ⟨q, _, _, _, _, hremoved⟩
    · rw [hkept]
      exact hleaves
    · rw [hremoved]
      exact hleaves.trans ((renames_unlink _ q).leaves hleaves.wellFormed)

/-- What has been destroyed leads nowhere, or to a directory that can be destroyed again. -/
theorem Demolished.removable (h : Removable v text p)
    (hgone : Demolished v text p v') {q : Path} (hq : v'.Leads text q) : Removable v' text q := by
  have hplace : q = p := by
    rw [hq.eq_foldl, h.leads.eq_foldl, start_of_workingDirectory hgone.workingDirectory]
  subst hplace
  refine ⟨h.check, h.fits, hq, fun node hnode => ?_, fun hfits hnode => ?_⟩
  · rw [hgone.gone _ (mem_owned_lock text)] at hnode
    simp at hnode
  · rw [hgone.gone _ (mem_owned_data hfits)] at hnode
    simp at hnode

theorem Demolished.node? (hname : EndsInName text) (h : Removable v text p)
    (hgone : Demolished v text p v') : v'.node? p = none ∨ v'.node? p = some .directory := by
  by_cases hempty : ∀ name, name ∉ owned text → v.node? (p ++ [name]) = none
  · exact Or.inl (hgone.removed hempty)
  · push Not at hempty
    obtain ⟨name, hnot, hsome⟩ := hempty
    exact Or.inr ((hgone.left name hnot hsome).trans (hname.node? h.leads).2)

/-- Destroying once more changes nothing. -/
theorem Demolished.again (hname : EndsInName text) (h : Removable v text p)
    (hgone : Demolished v text p v') :
    ∃ u, destroy v' text = (u, .ok ()) ∧ v'.Unchanged u := by
  by_cases hleads : ∃ q, v'.Leads text q
  · obtain ⟨q, hq⟩ := hleads
    obtain rfl : q = p := by
      rw [hq.eq_foldl, h.leads.eq_foldl, start_of_workingDirectory hgone.workingDirectory]
    obtain ⟨u, hu, hagain⟩ := destroy_of_removable hgone.files.wellFormed hname
      (hgone.removable h hq)
    refine ⟨u, hu, hagain.workingDirectory, fun r => ?_, hagain.files⟩
    by_cases howned : ∃ name ∈ owned text, r = q ++ [name]
    · obtain ⟨name, hmem, rfl⟩ := howned
      rw [hagain.gone name hmem, hgone.gone name hmem]
    · by_cases hr : r = q
      · -- The directory is still there, so something else is in it.
        have hdirectory := (hname.node? hq).2
        have hsome : ∃ name, name ∉ owned text ∧ v'.node? (q ++ [name]) ≠ none := by
          by_contra hnone
          push Not at hnone
          have hremoved := hgone.removed fun name hnot => by
            rw [← hgone.others (q ++ [name]) (by simp) ?_]
            · exact hnone name hnot
            · intro other hmem heq
              exact hnot ((List.cons.inj (List.append_cancel_left heq)).1 ▸ hmem)
          rw [hremoved] at hdirectory
          simp at hdirectory
        obtain ⟨name, hnot, hnode⟩ := hsome
        rw [hr]
        exact hagain.left name hnot hnode
      · exact hagain.others r hr fun name hmem heq => howned ⟨name, hmem, heq⟩
  · have hmissing : v'.isThere text = false := by
      have hplace : v'.place text = p :=
        (place_of_workingDirectory hgone.workingDirectory text).trans h.leads.place_eq
      unfold isThere
      cases hfind : v'.find text with
      | error e => rfl
      | ok found =>
        obtain ⟨path, node⟩ := found
        cases node with
        | directory => exact absurd ⟨path, (find_eq_directory_iff.mp hfind).2⟩ hleads
        | file id =>
          have hnode := node?_of_find hfind
          rw [place_of_find hfind, hplace] at hnode
          rcases hgone.node? hname h with hnone | hdirectory
          · simp [hnone] at hnode
          · simp [hdirectory] at hnode
    exact ⟨v', destroy_of_missing hmissing, Unchanged.refl hgone.files.wellFormed⟩

/-! ## Destroying at a path -/

/-- What has become of a volume if the database at a path has been destroyed. -/
structure Cleared (v : Volume) (text : String) (v' : Volume) : Prop where
  /-- The path leads to no lock file any more. -/
  lock : checkText text = .ok () → ∀ p, v'.Leads text p → v'.node? (p ++ ["LOCK"]) = none
  /-- It leads to no engine file either, unless that has been out of reach. -/
  data : checkText (dataPath text) = .ok () →
    ∀ p, v'.Leads text p → v'.node? (p ++ ["data.redb"]) = none
  /-- No file has changed, and every name but those in question leads where it led. -/
  files : v.Leaves v'
  others : ∀ q, (∀ p, v.Leads text p → q ≠ p ∧ ∀ name ∈ owned text, q ≠ p ++ [name]) →
    v'.node? q = v.node? q
  /-- The directory has gone if there was nothing else in it, and is left otherwise. -/
  directory : checkText text = .ok () → ∀ p, v.Leads text p →
    (v'.node? p = none ↔ ∀ name, name ∉ owned text → v.node? (p ++ [name]) = none)
  left : ∀ p, v.Leads text p → v'.node? p = none ∨ v'.node? p = v.node? p
  /-- Destroying it once more succeeds and does nothing. -/
  again : ∃ u, destroy v' text = (u, .ok ()) ∧ v'.Unchanged u

/-- What destroying the database at a path comes to. -/
structure Destroys (v : Volume) (text : String) : Prop where
  cleared : (destroy v text).2 = .ok () → Cleared v text (destroy v text).1
  intact : ∀ e, (destroy v text).2 = .error e → Intact text v (destroy v text).1
  /-- While somebody holds the lock, that is an I/O error, and nothing is done. -/
  refused : checkText text = .ok () → ∀ p lock, v.Leads text p →
    v.node? (p ++ ["LOCK"]) = some (.file lock) → v.isLocked lock = true →
    ∃ message, destroy v text = (v, .error (.io message))

/-- Where nothing is found, there is nothing left to be destroyed. -/
theorem cleared_of_missing (hwell : v.WellFormed) (hname : EndsInName text)
    (hmissing : v.isThere text = false) : Cleared v text v := by
  have hnowhere : checkText text = .ok () → ∀ p, ¬ v.Leads text p := by
    intro hcheck p hleads
    rw [isThere_of_leads hcheck hleads] at hmissing
    exact Bool.false_ne_true hmissing.symm
  exact ⟨fun hcheck p hleads => absurd hleads (hnowhere hcheck p),
    fun hfits p hleads => absurd hleads (hnowhere (hname.check hfits) p), Leaves.refl hwell,
    fun _ _ => rfl, fun hcheck p hleads => absurd hleads (hnowhere hcheck p), fun _ _ => Or.inr rfl,
    v, destroy_of_missing hmissing, Unchanged.refl hwell⟩

theorem Demolished.cleared (hname : EndsInName text) (h : Removable v text p)
    (hgone : Demolished v text p v') : Cleared v text v' := by
  have hplace : ∀ {q : Path}, v'.Leads text q → q = p := fun hq => by
    rw [← hq.place_eq, place_of_workingDirectory hgone.workingDirectory, h.leads.place_eq]
  refine ⟨fun _ q hq => ?_, fun hfits q hq => ?_, hgone.files, fun q hq => ?_,
    fun _ q hq => ?_, fun q hq => ?_, hgone.again hname h⟩
  · rw [hplace hq]
    exact hgone.gone _ (mem_owned_lock text)
  · rw [hplace hq]
    exact hgone.gone _ (mem_owned_data hfits)
  · obtain ⟨hne, hnot⟩ := hq p h.leads
    exact hgone.others q hne hnot
  · obtain rfl := hq.unique h.leads
    refine ⟨fun hnone name hnot => ?_, hgone.removed⟩
    by_contra hsome
    have hleft := hgone.left name hnot hsome
    rw [hnone, (hname.node? hq).2] at hleft
    simp at hleft
  · obtain rfl := hq.unique h.leads
    rw [(hname.node? hq).2]
    exact hgone.node? hname h

/-- What becomes of any volume when the database is destroyed at a path that ends in a name. -/
theorem destroy_exact (hwell : v.WellFormed) (hname : EndsInName text) : Destroys v text := by
  refine ⟨fun hok => ?_, fun e herror => ?_, fun hcheck p lock hleads hnode hlocked => ?_⟩
  · rcases destroy_cases hwell text with ⟨hmissing, hdestroy⟩ | ⟨v', e, hdestroy, _⟩ | ⟨p, h⟩
    · rw [hdestroy]
      exact cleared_of_missing hwell hname hmissing
    · rw [hdestroy] at hok
      simp at hok
    · obtain ⟨v', hdestroy, hgone⟩ := destroy_of_removable hwell hname h
      rw [hdestroy]
      exact hgone.cleared hname h
  · rcases destroy_cases hwell text with ⟨_, hdestroy⟩ | ⟨v', e', hdestroy, hintact⟩ | ⟨p, h⟩
    · rw [hdestroy] at herror
      simp at herror
    · rw [hdestroy]
      exact hintact
    · obtain ⟨v', hdestroy, _⟩ := destroy_of_removable hwell hname h
      rw [hdestroy] at herror
      simp at herror
  · have hthere := isThere_of_leads hcheck hleads
    cases hacquire : acquire v text with
    | mk u outcome =>
      cases outcome with
      | ok taken =>
        obtain ⟨_, q, hq, _, hfree⟩ := leads_of_acquire hacquire
        obtain rfl := hq.unique hleads
        rw [hfree lock hnode] at hlocked
        exact absurd hlocked Bool.false_ne_true
      | error e =>
        obtain ⟨rfl, _⟩ := acquire_error hacquire
        obtain ⟨message, rfl⟩ := io_of_acquire hacquire
        exact ⟨message, destroy_of_acquire hthere hacquire⟩

/-- The theorem on a database that is closed. -/
theorem destroy_exact_furnished :
    furnished.WellFormed ∧ EndsInName "db" ∧ Destroys furnished "db" := by
  have hname : EndsInName "db" := ⟨[], "db", by decide, by decide, by decide⟩
  exact ⟨wellFormed_furnished, hname, destroy_exact wellFormed_furnished hname⟩

/-! ## An engine file out of reach -/

/-- The path of a directory with so many needless dots before it. -/
def winding : Nat → String
  | 0 => "db"
  | count + 1 => "." ++ "/" ++ winding count

theorem names_winding (count : Nat) :
    names (winding count) = List.replicate count "." ++ ["db"] := by
  induction count with
  | zero => decide
  | succ count ih =>
    rw [winding, names_slash, ih, names_of_isName ⟨by decide, by decide⟩, List.replicate_succ]
    rfl

theorem utf8_append (a b : String) : utf8 (a ++ b) = utf8 a ++ utf8 b := by
  unfold utf8
  rw [String.toList_append, List.flatMap_append]

theorem length_winding (count : Nat) : (utf8 (winding count)).length = 2 * count + 2 := by
  induction count with
  | zero => rfl
  | succ count ih =>
    rw [winding, utf8_append, List.length_append, ih]
    show 2 + _ = _
    omega

theorem nul_not_mem_winding (count : Nat) : '\x00' ∉ (winding count).toList := by
  induction count with
  | zero => decide
  | succ count ih =>
    rw [winding, String.toList_append, List.mem_append, not_or]
    exact ⟨by decide, ih⟩

theorem length_join (text name : String) :
    (utf8 text).length + (utf8 name).length ≤ (utf8 (join text name)).length ∧
      (utf8 (join text name)).length ≤ (utf8 text).length + 1 + (utf8 name).length := by
  have hslash : (utf8 "/").length = 1 := rfl
  unfold join
  split
  · rw [utf8_append, List.length_append]
    omega
  · rw [utf8_append, utf8_append, List.length_append, List.length_append, hslash]
    omega

theorem nul_not_mem_join {text name : String} (h : '\x00' ∉ text.toList)
    (hname : '\x00' ∉ name.toList) : '\x00' ∉ (join text name).toList := by
  unfold join
  split
  · rw [String.toList_append, List.mem_append, not_or]
    exact ⟨h, hname⟩
  · rw [String.toList_append, String.toList_append, List.mem_append, List.mem_append, not_or,
      not_or]
    exact ⟨⟨h, by decide⟩, hname⟩

theorem endsInName_winding (count : Nat) : EndsInName (winding count) :=
  ⟨_, _, names_winding count, by decide, by decide⟩

theorem leads_winding (count : Nat) : furnished.Leads (winding count) ["db"] := by
  have hstart : furnished.start (winding count) = [] := by
    unfold start
    split <;> rfl
  unfold Leads
  rw [hstart, names_winding, walk_append, ← walk_filter furnished [] (List.replicate count "."),
    List.filter_replicate]
  rfl

/-- Between two lengths of the path, the database can be locked and cannot be emptied. -/
theorem destroy_winding (count : Nat) (hlong : pathLimit ≤ 2 * count + 11)
    (hshort : 2 * count + 7 < pathLimit) :
    ∃ v', destroy furnished (winding count) = (v', .ok ()) ∧ v'.Leads (winding count) ["db"] ∧
      v'.node? (["db"] ++ ["data.redb"]) = some (.file ⟨0⟩) := by
  have hlength := length_winding count
  have hnul := nul_not_mem_winding count
  have hname := endsInName_winding count
  have hlock : (utf8 "LOCK").length = 4 := rfl
  have hdata : (utf8 "data.redb").length = 9 := rfl
  have hcheck : checkText (winding count) = .ok () :=
    checkText_eq_ok_iff.mpr ⟨hnul, hname.ne_empty, by omega⟩
  have hfits : checkText (lockPath (winding count)) = .ok () := by
    have hjoin := length_join (winding count) "LOCK"
    refine checkText_eq_ok_iff.mpr ⟨nul_not_mem_join hnul (by decide), fun hempty => ?_, ?_⟩
    · rw [show join (winding count) "LOCK" = "" from hempty] at hjoin
      rw [show (utf8 "").length = 0 from rfl] at hjoin
      omega
    · show (utf8 (join (winding count) "LOCK")).length < pathLimit
      omega
  have hout : checkText (dataPath (winding count)) ≠ .ok () := by
    intro hok
    have hjoin := length_join (winding count) "data.redb"
    have hreach : (utf8 (join (winding count) "data.redb")).length < pathLimit :=
      (checkText_eq_ok_iff.mp hok).2.2
    omega
  have howned : "data.redb" ∉ owned (winding count) := by
    unfold owned
    rw [if_neg hout]
    decide
  have hremovable : Removable furnished (winding count) ["db"] :=
    ⟨hcheck, hfits, leads_winding count,
      fun node hnode => absurd hnode (by simp [furnished, node?]),
      fun hok => absurd hok hout⟩
  obtain ⟨v', hdestroy, hgone⟩ := destroy_of_removable wellFormed_furnished hname hremovable
  have hengine : furnished.node? (["db"] ++ ["data.redb"]) = some (.file ⟨0⟩) := rfl
  have hleft : v'.node? (["db"] ++ ["data.redb"]) = some (.file ⟨0⟩) :=
    (hgone.others _ (by decide) (concat_ne_of_not_mem howned)).trans hengine
  have hkeeps := hgone.keepsDirectories hremovable
    (hgone.left _ howned (by rw [hengine]; simp))
  exact ⟨v', hdestroy, (leads_winding count).mono hkeeps, hleft⟩

/-- A database whose engine file is left behind by a destruction that succeeds. -/
theorem engine_file_outlives_destroy :
    ∃ v', destroy furnished (winding 2043) = (v', .ok ()) ∧ EndsInName (winding 2043) ∧
      v'.Leads (winding 2043) ["db"] ∧
      v'.node? (["db"] ++ ["data.redb"]) = some (.file ⟨0⟩) := by
  obtain ⟨v', hdestroy, hleads, hnode⟩ :=
    destroy_winding 2043 (by unfold pathLimit; omega) (by unfold pathLimit; omega)
  exact ⟨v', hdestroy, endsInName_winding 2043, hleads, hnode⟩

end Directory

end OrderedStore
