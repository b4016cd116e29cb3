import OrderedStore.Proofs.Directory

/-!
# Destroying a database

Destroying a database takes names away, but only the two in its own directory, whose lock
must be free, and that directory once it is empty (`thinned_destroy`).  One step of a removal
keeps what has been reached so far (`Reached.step`), so all of them do.  Of a database that
nobody has open, both files go (`destroy_of_free`).
-/

set_option autoImplicit false

namespace OrderedStore

namespace Volume

variable {v v' w : Volume} {p : Path} {text : String}

/-! ## Taking names away -/

/-- Every directory is still there, and every file but the two of the database at `p`. -/
structure Thins (v v' : Volume) (p : Path) : Prop where
  keeps : v.KeepsDirectories v'
  file : ∀ {q : Path} {id : FileId}, v.node? q = some (.file id) → q ≠ p ++ ["LOCK"] →
    q ≠ p ++ ["data.redb"] → v'.node? q = some (.file id)

theorem Extends.thins (h : v.Extends v') (p : Path) : v.Thins v' p :=
  ⟨h.keepsDirectories, fun hnode _ _ => h.node hnode⟩

theorem Thins.trans (h : v.Thins v' p) (h' : v'.Thins w p) : v.Thins w p :=
  ⟨h.keeps.trans h'.keeps, fun hnode hlock hdata => h'.file (h.file hnode hlock hdata) hlock hdata⟩

/-- Takes the name of a file of the database away. -/
theorem Thins.of_removeFile {name : String} (hname : Regular name) (h : v.Leads text p)
    (hours : name = "LOCK" ∨ name = "data.redb")
    (hremove : v.removeFile (Directory.join text name) = .ok v') : v.Thins v' p := by
  obtain ⟨hcheck, _⟩ := leads_of_removeFile hname hremove
  rw [removeFile_join hname hcheck h] at hremove
  cases hnode : v.node? (p ++ [name]) with
  | none =>
    rw [hnode] at hremove
    simp at hremove
  | some node =>
    rw [hnode] at hremove
    cases node with
    | directory => simp at hremove
    | file id =>
      obtain rfl := Except.ok.inj hremove
      have hunlink := node?_unlink v (p ++ [name]) (by simp)
      refine ⟨⟨rfl, fun {q} hq => ?_⟩, fun {q _} hq hlock hdata => ?_⟩
      · rw [hunlink, if_neg]
        · exact hq
        · rintro rfl
          rw [hnode] at hq
          simp at hq
      · rw [hunlink, if_neg]
        · exact hq
        · rcases hours with rfl | rfl
          · exact hlock
          · exact hdata

/-- A path that comes down to a name in a directory ends with that name. -/
theorem names_of_target {path : Path} {slashed : Bool}
    (h : v.target text = .ok (.entry path slashed)) :
    ∃ init name here, names text = init ++ [name] ∧ name ≠ "." ∧ name ≠ ".." ∧
      v.walk (v.start text) init = .ok here ∧ path = here ++ [name] := by
  rw [target_eq] at h
  cases hcheck : checkText text with
  | error e =>
    rw [hcheck] at h
    simp [Except.bind] at h
  | ok _ =>
    cases hwalk : v.walk (v.start text) (names text).dropLast with
    | error e =>
      rw [hcheck, hwalk] at h
      simp [Except.bind] at h
    | ok here =>
      rw [hcheck, hwalk] at h
      simp only [Except.bind] at h
      split at h
      · simp at h
      · simp at h
      · simp at h
      · rename_i name hdot hdots hlast
        obtain ⟨init, hnames⟩ := List.getLast?_eq_some_iff.mp hlast
        rw [hnames, List.dropLast_concat] at hwalk
        refine ⟨init, name, here, hnames, ?_, ?_, hwalk, ?_⟩
        · rintro rfl
          exact hdot rfl
        · rintro rfl
          exact hdots rfl
        · exact (Target.entry.inj (Except.ok.inj h)).1.symm

/-- Only an empty directory that a path leads to by its name is ever removed. -/
theorem removeDirectory_cases (h : v.removeDirectory text = .ok v') :
    ∃ p slashed, v.target text = .ok (.entry p slashed) ∧ v.Leads text p ∧ p ≠ [] ∧
      v.node? p = some .directory ∧ v.hasChild p = false ∧ v' = v.unlink p := by
  unfold removeDirectory at h
  simp only [bind, Except.bind, pure, Except.pure, throw, throwThe, MonadExceptOf.throw] at h
  split at h
  · simp at h
  · rename_i htarget
    split at h
    · simp at h
    · simp at h
    · rename_i path slashed
      split at h
      · simp at h
      · rename_i hlast
        split at h
        · simp at h
        · simp at h
        · rename_i hnode
          split at h
          · simp at h
          · rename_i hchild
            have hfind : v.find text = .ok (path, .directory) := by
              rw [find_eq, htarget]
              simp only [Except.bind, hlast, hnode]
            obtain ⟨_, _, here, _, _, _, _, rfl⟩ := names_of_target htarget
            exact ⟨_, slashed, htarget, (find_eq_directory_iff.mp hfind).2, by simp, hnode,
              by simpa using hchild, (Except.ok.inj h).symm⟩

/-- A name that leads nowhere can be taken away without a change. -/
theorem unlink_of_none {path : Path} (hne : path ≠ []) (h : v.node? path = none) :
    v.unlink path = v := by
  have hkeep : v.nodes.filter (fun entry => decide (entry.1 ≠ path)) = v.nodes := by
    refine List.filter_eq_self.mpr fun entry hmem => decide_eq_true fun heq => ?_
    unfold node? at h
    split at h
    · exact hne rfl
    · rw [Option.map_eq_none_iff, List.find?_eq_none] at h
      simpa [heq] using h entry hmem
  unfold unlink
  rw [hkeep]

/-- What destroying the database at a path may leave of a volume. -/
def Thinned (v : Volume) (text : String) (v' : Volume) : Prop :=
  v.Extends v' ∨ ∃ p w, v.Leads text p ∧
    (∀ id, v.node? (p ++ ["LOCK"]) = some (.file id) → v.isLocked id = false) ∧ v.Thins w p ∧
      (v' = w ∨ p ≠ [] ∧ w.node? p = some .directory ∧ w.hasChild p = false ∧ v' = w.unlink p)

end Volume

open Volume

namespace Removal

variable {v₀ v : Volume} {text : String} {removal : Removal}

/-- What has become of the volume so far. -/
def Reached (v₀ : Volume) (text : String) (v : Volume) : Removal → Prop
  | .begun => v = v₀
  | .finished _ => v₀.Thinned text v
  | _ => ∃ p, v₀.Leads text p ∧
    (∀ id, v₀.node? (p ++ ["LOCK"]) = some (.file id) → v₀.isLocked id = false) ∧ v₀.Thins v p

theorem Reached.thinned (h : Reached v₀ text v removal) : v₀.Thinned text v := by
  have hmiddle : (∃ p, v₀.Leads text p ∧
      (∀ id, v₀.node? (p ++ ["LOCK"]) = some (.file id) → v₀.isLocked id = false) ∧
        v₀.Thins v p) → v₀.Thinned text v :=
    fun ⟨p, hleads, hfree, hthins⟩ => Or.inr ⟨p, v, hleads, hfree, hthins, Or.inl rfl⟩
  cases removal with
  | begun =>
    obtain rfl := h
    exact Or.inl (Extends.refl _)
  | locked lock => exact hmiddle h
  | emptied lock => exact hmiddle h
  | unlocked => exact hmiddle h
  | cleared => exact hmiddle h
  | finished outcome => exact h

theorem Reached.step (h : Reached v₀ text v removal) :
    Reached v₀ text (Removal.step text v removal).1 (Removal.step text v removal).2 := by
  cases removal with
  | begun =>
    obtain rfl := h
    have hextends := Directory.extends_acquire v text
    simp only [Removal.step]
    split
    · cases hacquire : Directory.acquire v text with
      | mk v' outcome =>
        rw [hacquire] at hextends
        cases outcome with
        | error e => exact Or.inl hextends
        | ok lock =>
          obtain ⟨_, p, hleads, _, hfree⟩ := Directory.leads_of_acquire hacquire
          exact ⟨p, hleads, hfree, hextends.thins p⟩
    · exact Or.inl (Extends.refl v)
  | locked lock =>
    obtain ⟨p, hleads, hfree, hthins⟩ := h
    simp only [Removal.step]
    split
    · split
      · rename_i v' hremove
        exact ⟨p, hleads, hfree, hthins.trans
          (Thins.of_removeFile regular_data (hleads.mono hthins.keeps) (Or.inr rfl) hremove)⟩
      · have hreleased := hthins.trans ((extends_setLocked v lock false).thins p)
        exact Or.inr ⟨p, _, hleads, hfree, hreleased, Or.inl rfl⟩
    · exact ⟨p, hleads, hfree, hthins⟩
  | emptied lock =>
    obtain ⟨p, hleads, hfree, hthins⟩ := h
    exact ⟨p, hleads, hfree, hthins.trans ((extends_setLocked v lock false).thins p)⟩
  | unlocked =>
    obtain ⟨p, hleads, hfree, hthins⟩ := h
    simp only [Removal.step]
    split
    · rename_i v' hremove
      exact ⟨p, hleads, hfree, hthins.trans
        (Thins.of_removeFile regular_lock (hleads.mono hthins.keeps) (Or.inl rfl) hremove)⟩
    · exact Or.inr ⟨p, v, hleads, hfree, hthins, Or.inl rfl⟩
  | cleared =>
    obtain ⟨p, hleads, hfree, hthins⟩ := h
    refine Or.inr ⟨p, v, hleads, hfree, hthins, ?_⟩
    cases hremove : v.removeDirectory text with
    | error e =>
      left
      simp only [Removal.step, hremove]
      rfl
    | ok v' =>
      right
      obtain ⟨q, _, _, hq, hne, hnode, hchild, rfl⟩ := removeDirectory_cases hremove
      obtain rfl := (hleads.mono hthins.keeps).unique hq
      refine ⟨hne, hnode, hchild, ?_⟩
      simp only [Removal.step, hremove]
      rfl
  | finished outcome => exact h

theorem steps_succ (text : String) (n : Nat) (v : Volume) (removal : Removal) :
    Removal.steps text (n + 1) v removal =
      Removal.steps text n (Removal.step text v removal).1 (Removal.step text v removal).2 := rfl

theorem Reached.steps (h : Reached v₀ text v removal) (n : Nat) :
    Reached v₀ text (Removal.steps text n v removal).1 (Removal.steps text n v removal).2 := by
  induction n generalizing v removal with
  | zero => exact h
  | succ n ih => exact ih h.step

end Removal

namespace Directory

variable {v : Volume} {text : String} {p : Path} {lock : FileId}

/-- Destroying a database leaves everything but that database. -/
theorem thinned_destroy (v : Volume) (text : String) : v.Thinned text (destroy v text).1 := by
  have hreached : Removal.Reached v text v .begun := rfl
  have hsteps := (hreached.steps Removal.length).thinned
  unfold destroy
  exact hsteps

/-- What is left without the files of a database whose lock was free. -/
def emptied (v : Volume) (p : Path) (lock : FileId) : Volume :=
  (((v.setLocked lock true).unlink (p ++ ["data.redb"])).setLocked lock false).unlink
    (p ++ ["LOCK"])

theorem node?_emptied (v : Volume) (p : Path) (lock : FileId) (q : Path) :
    (emptied v p lock).node? q =
      if q = p ++ ["LOCK"] then none else if q = p ++ ["data.redb"] then none else v.node? q := by
  unfold emptied
  rw [node?_unlink _ _ (by simp), node?_setLocked, node?_unlink _ _ (by simp), node?_setLocked]

/-- A path that leads nowhere is destroyed already. -/
theorem destroy_of_missing (h : v.isThere text = false) : destroy v text = (v, .ok ()) := by
  have hstep : Removal.step text v .begun = (v, .finished (.ok ())) := by
    simp only [Removal.step, h]
    rfl
  unfold destroy Removal.length
  rw [Removal.steps, hstep]
  rfl

/-- While somebody has the lock, nothing is destroyed. -/
theorem destroy_of_held (hthere : v.isThere text = true)
    (hcheck : checkText (lockPath text) = .ok ()) (h : v.Leads text p)
    (hnode : v.node? (p ++ ["LOCK"]) = some (.file lock)) (hlocked : v.isLocked lock = true) :
    destroy v text = (v, .error (.io s!"lock {lockPath text}: already held by process")) := by
  have hstep : Removal.step text v .begun =
      (v, .finished (.error (.io s!"lock {lockPath text}: already held by process"))) := by
    simp only [Removal.step, hthere, acquire_of_held hcheck h hnode hlocked]
    rfl
  unfold destroy Removal.length
  rw [Removal.steps, hstep]
  rfl

theorem keepsDirectories_emptied (hlock : v.node? (p ++ ["LOCK"]) = some (.file lock))
    (hdata : v.node? (p ++ ["data.redb"]) ≠ some .directory) :
    v.KeepsDirectories (emptied v p lock) := by
  refine ⟨rfl, fun {q} hq => ?_⟩
  rw [node?_emptied, if_neg, if_neg]
  · exact hq
  · rintro rfl
    exact hdata hq
  · rintro rfl
    simp [hlock] at hq

/-- Either the directory is left, or it was empty and has been removed by its name. -/
theorem removed_cases (v : Volume) (text : String) :
    (v.removeDirectory text).toOption.getD v = v ∨
      ∃ p, v.Leads text p ∧ p ≠ [] ∧ v.node? p = some .directory ∧ v.hasChild p = false ∧
        (v.removeDirectory text).toOption.getD v = v.unlink p := by
  cases hremove : v.removeDirectory text with
  | error e => exact Or.inl rfl
  | ok v' =>
    obtain ⟨p, _, _, hleads, hne, hnode, hchild, rfl⟩ := removeDirectory_cases hremove
    exact Or.inr ⟨p, hleads, hne, hnode, hchild, rfl⟩

/-- While the lock is held, the engine file goes if there is one. -/
theorem step_locked (hcheck : checkText (dataPath text) = .ok ()) (h : v.Leads text p)
    (hdata : v.node? (p ++ ["data.redb"]) ≠ some .directory) :
    Removal.step text v (.locked lock) = (v.unlink (p ++ ["data.redb"]), .emptied lock) := by
  have hthere := isThere_join regular_data hcheck h
  have hremove := removeFile_join regular_data hcheck h
  simp only [Removal.step]
  cases hfile : v.node? (p ++ ["data.redb"]) with
  | none =>
    rw [hfile] at hthere
    rw [show v.isThere (dataPath text) = false from hthere, unlink_of_none (by simp) hfile]
    rfl
  | some node =>
    rw [hfile] at hthere hremove
    cases node with
    | directory => exact absurd hfile hdata
    | file id =>
      rw [show v.isThere (dataPath text) = true from hthere, if_pos rfl,
        show v.removeFile (dataPath text) = .ok _ from hremove]

/-- Once the lock has been let go, the lock file goes. -/
theorem step_unlocked (hcheck : checkText (lockPath text) = .ok ()) (h : v.Leads text p)
    (hnode : v.node? (p ++ ["LOCK"]) = some (.file lock)) :
    Removal.step text v .unlocked = (v.unlink (p ++ ["LOCK"]), .cleared) := by
  have hremove := removeFile_join regular_lock hcheck h
  rw [hnode] at hremove
  simp only [Removal.step]
  rw [show v.removeFile (lockPath text) = .ok _ from hremove]

/-- If the lock is free, the lock file goes, whatever becomes of the engine file, and the
directory if it can. -/
theorem destroy_of_emptied {w : Volume} (hthere : v.isThere text = true)
    (hcheck : checkText (lockPath text) = .ok ()) (h : v.Leads text p)
    (hnode : v.node? (p ++ ["LOCK"]) = some (.file lock)) (hlocked : v.isLocked lock = false)
    (hstep : Removal.step text (v.setLocked lock true) (.locked lock) = (w, .emptied lock))
    (hkeeps : v.KeepsDirectories w) (hw : w.node? (p ++ ["LOCK"]) = some (.file lock)) :
    destroy v text =
      ((((w.setLocked lock false).unlink (p ++ ["LOCK"])).removeDirectory text).toOption.getD
        ((w.setLocked lock false).unlink (p ++ ["LOCK"])), .ok ()) := by
  have hbegun : Removal.step text v .begun = (v.setLocked lock true, .locked lock) := by
    simp only [Removal.step, hthere, acquire_of_free hcheck h hnode hlocked]
    rfl
  have hunlocked : Removal.step text (w.setLocked lock false) .unlocked =
      ((w.setLocked lock false).unlink (p ++ ["LOCK"]), .cleared) :=
    step_unlocked hcheck (h.mono (hkeeps.trans (extends_setLocked w lock false).keepsDirectories))
      ((node?_setLocked w lock false _).trans hw)
  have hsteps : Removal.steps text Removal.length v .begun =
      ((((w.setLocked lock false).unlink (p ++ ["LOCK"])).removeDirectory text).toOption.getD
        ((w.setLocked lock false).unlink (p ++ ["LOCK"])), .finished (.ok ())) := by
    rw [Removal.length, Removal.steps_succ, hbegun, Removal.steps_succ, hstep]
    show Removal.steps text 2 (w.setLocked lock false) .unlocked = _
    rw [Removal.steps_succ, hunlocked]
    rfl
  unfold destroy
  rw [hsteps]
  rfl

/-- If the lock is free, both files go, and the directory if it can. -/
theorem destroy_of_free (hthere : v.isThere text = true)
    (hcheck : checkText (dataPath text) = .ok ()) (h : v.Leads text p)
    (hnode : v.node? (p ++ ["LOCK"]) = some (.file lock)) (hlocked : v.isLocked lock = false)
    (hdata : v.node? (p ++ ["data.redb"]) ≠ some .directory) :
    destroy v text =
      (((emptied v p lock).removeDirectory text).toOption.getD (emptied v p lock), .ok ()) := by
  have hnames : ∀ q, ((v.setLocked lock true).unlink (p ++ ["data.redb"])).node? q =
      if q = p ++ ["data.redb"] then none else v.node? q := by
    intro q
    rw [node?_unlink _ _ (by simp), node?_setLocked]
  have hstep : Removal.step text (v.setLocked lock true) (.locked lock) =
      ((v.setLocked lock true).unlink (p ++ ["data.redb"]), .emptied lock) :=
    step_locked hcheck (h.mono (extends_setLocked v lock true).keepsDirectories)
      (by rw [node?_setLocked]; exact hdata)
  refine destroy_of_emptied hthere (checkText_lockPath hcheck) h hnode hlocked hstep
    ⟨rfl, fun {q} hq => ?_⟩ ((hnames _).trans ((if_neg (by simp)).trans hnode))
  rw [hnames, if_neg]
  · exact hq
  · rintro rfl
    exact hdata hq

/-- After that there is no engine file at the path. -/
theorem isThere_dataPath_of_free (hthere : v.isThere text = true)
    (hcheck : checkText (dataPath text) = .ok ()) (h : v.Leads text p)
    (hnode : v.node? (p ++ ["LOCK"]) = some (.file lock)) (hlocked : v.isLocked lock = false)
    (hdata : v.node? (p ++ ["data.redb"]) ≠ some .directory) :
    (destroy v text).1.isThere (dataPath text) = false := by
  rw [destroy_of_free hthere hcheck h hnode hlocked hdata]
  have hgone : (emptied v p lock).node? (p ++ ["data.redb"]) = none := by
    rw [node?_emptied, if_neg (by simp), if_pos rfl]
  have hplace : ∀ {w : Volume} {q : Path}, w.workingDirectory = v.workingDirectory →
      w.Leads text q → q = p := by
    intro w q hdirectory hq
    rw [hq.eq_foldl, h.eq_foldl, start_of_workingDirectory hdirectory]
  refine isThere_join_eq_false regular_data hcheck fun q hq => ?_
  rcases removed_cases (emptied v p lock) text with heq | ⟨r, _, hne, _, _, heq⟩
  · simp only [heq] at hq ⊢
    rw [hplace (w := emptied v p lock) rfl hq]
    exact hgone
  · simp only [heq] at hq ⊢
    rw [hplace (w := (emptied v p lock).unlink r) rfl hq, node?_unlink _ r hne]
    split
    · rfl
    · exact hgone

end Directory

end OrderedStore
