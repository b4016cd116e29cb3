import Mathlib.Data.List.Perm.Basic
import OrderedStore.Proofs.Destruction

/-!
# Opening and destroying in turns

Several callers want one database directory.  Opening and letting go are done in one go, but
a destruction is a row of steps, and between any two of them others get a turn
(`Contest.happen`).  Whoever has opened the directory, or is in the middle of destroying the
database, holds a lock.

Locks are never shared: no file is held by two at once (`Account`).  That there is one
holder at a time takes more, since the lock is on a file and not on its name.  A destruction
lets go of its lock before it takes the name of the lock file away.  If meanwhile somebody has
locked the file, the name is stolen from under its holder (`Steals`), and the next caller
locks a new file beside it.  `exclusive_unless_stolen` says that this is the only way for two
to hold the directory, and that it always is one; `two_holders` is such a run.
-/

set_option autoImplicit false

namespace OrderedStore

open Volume

/-- Who holds a directory, and who is destroying the database in it. -/
structure Contest where
  volume : Volume
  held : List Directory
  removals : List Removal

namespace Contest

variable {c c' : Contest} {path : String} {v : Volume}

/-! ## Turns -/

/-- What a caller does at its turn.  Those who hold the directory, and the destructions, are
called by their numbers. -/
inductive Event where
  /-- Somebody opens the directory, or fails to. -/
  | enter (create : Bool)
  /-- A holder makes the engine file, if it is missing. -/
  | furnish (n : Nat)
  /-- A holder lets go of it. -/
  | leave (n : Nat)
  /-- Somebody is about to destroy the database. -/
  | begin
  /-- A destruction takes its next step. -/
  | advance (n : Nat)
  deriving DecidableEq

/-- Nobody is there yet. -/
def start (v : Volume) : Contest := ⟨v, [], []⟩

/-- One turn. -/
def happen (path : String) (c : Contest) : Event → Contest
  | .enter create =>
    match Directory.openAt c.volume path create with
    | (v, .ok directory) => { c with volume := v, held := directory :: c.held }
    | (v, .error _) => { c with volume := v }
  | .furnish n =>
    match c.held[n]? with
    | none => c
    | some directory =>
      match c.volume.openOrCreate (Directory.dataPath directory.text) with
      | .ok (v, _) => { c with volume := v }
      | .error _ => c
  | .leave n =>
    match c.held[n]? with
    | none => c
    | some directory =>
      { c with volume := directory.release c.volume, held := c.held.eraseIdx n }
  | .begin => { c with removals := c.removals ++ [.begun] }
  | .advance n =>
    match c.removals[n]? with
    | none => c
    | some removal =>
      { c with
        volume := (Removal.step path c.volume removal).1
        removals := c.removals.set n (Removal.step path c.volume removal).2 }

/-- Several turns. -/
def run (path : String) (c : Contest) (events : List Event) : Contest :=
  events.foldl (happen path) c

/-- The files that are held. -/
def locks (c : Contest) : List FileId :=
  c.held.map Directory.lock ++ c.removals.filterMap Removal.lock?

/-- A destruction is about to take the name of a lock file away that somebody holds. -/
def Steals (path : String) (c : Contest) (event : Event) : Prop :=
  ∃ n, event = .advance n ∧ c.removals[n]? = some .unlocked ∧
    Directory.isHeld c.volume path = true

/-- Nothing is stolen. -/
def Fair (path : String) (c : Contest) : List Event → Prop
  | [] => True
  | event :: rest => ¬ Steals path c event ∧ Fair path (happen path c event) rest

/-! ## What a turn can do -/

/-- The name of the lock file in the directory of a path. -/
def lockName (c : Contest) (path : String) : Path := c.volume.place path ++ ["LOCK"]

/-- A lock file under its name stays there. -/
def KeepsName (path : String) (c c' : Contest) : Prop :=
  ∀ id, c.volume.node? (c.lockName path) = some (.file id) →
    c'.volume.node? (c.lockName path) = some (.file id)

/-- What one turn can do: nothing to locks, or it takes one, or it lets go of one. -/
inductive Turn (path : String) (c : Contest) (event : Event) (c' : Contest) : Prop where
  | rests (locks : c'.locks.Perm c.locks) (files : c.volume.Leaves c'.volume)
    (name : KeepsName path c c')
  | strips {id : FileId} (locks : c'.locks.Perm c.locks) (files : c.volume.Leaves c'.volume)
    (node : c.volume.node? (c.lockName path) = some (.file id))
    (steals : c.volume.isLocked id = true → Steals path c event)
  | takes (lock : FileId) (locks : c'.locks.Perm (lock :: c.locks))
    (wellFormed : c'.volume.WellFormed) (free : c.volume.isLocked lock = false)
    (locked : ∀ id, c'.volume.isLocked id = true ↔ id = lock ∨ c.volume.isLocked id = true)
    (check : checkText path = .ok ())
    (name : c'.volume.node? (c.lockName path) = some (.file lock))
    (before : ∀ id, c.volume.node? (c.lockName path) = some (.file id) → id = lock)
  | drops (lock : FileId) (locks : c.locks.Perm (lock :: c'.locks))
    (wellFormed : c'.volume.WellFormed)
    (locked : ∀ id, c'.volume.isLocked id = true ↔ id ≠ lock ∧ c.volume.isLocked id = true)
    (name : KeepsName path c c')

theorem keepsName_of_extends (h : c.volume.Extends c'.volume) : KeepsName path c c' :=
  fun _ hnode => h.node hnode

/-- Taking away what is no file leaves a lock file. -/
theorem keepsName_of_unlink {q : Path} (hne : q ≠ []) (hq : q ≠ c.lockName path)
    (hvolume : c'.volume = c.volume.unlink q) : KeepsName path c c' := by
  intro id hnode
  rw [hvolume, node?_unlink _ q hne, if_neg (Ne.symm hq)]
  exact hnode

/-! ## Opening and letting go -/

theorem locked_iff_of_present {lock : FileId} (h : (v.files.get? lock).isSome = true)
    (id : FileId) :
    (v.setLocked lock true).isLocked id = true ↔ id = lock ∨ v.isLocked id = true := by
  rw [isLocked_setLocked, h]
  by_cases hid : id = lock
  · simp [hid]
  · simp [hid]

theorem unlocked_iff (v : Volume) (lock id : FileId) :
    (v.setLocked lock false).isLocked id = true ↔ id ≠ lock ∧ v.isLocked id = true := by
  rw [isLocked_setLocked, Bool.and_false]
  by_cases hid : id = lock
  · simp [hid]
  · simp [hid]

/-- Whoever gets the lock has found it free under the name of the lock file. -/
theorem Turn.of_secured {event : Event} {w : Volume} {p : Path} {lock : FileId}
    (h : Directory.Secured path c.volume w p lock) (hcheck : checkText path = .ok ())
    (hvolume : c'.volume = w.setLocked lock true) (hlocks : c'.locks.Perm (lock :: c.locks)) :
    Turn path c event c' := by
  have hwell := h.intact.files.wellFormed
  have hplace : c.lockName path = p ++ ["LOCK"] := by
    rw [lockName, ← h.intact.place_eq, h.leads.place_eq]
  refine .takes lock hlocks ?_ ?_ (fun id => ?_) hcheck ?_ fun id hnode => ?_
  · rw [hvolume]
    exact hwell.setLocked lock true
  · rw [← h.intact.files.isLocked, h.free]
  · rw [hvolume, locked_iff_of_present (hwell.present (mem_nodes_of_node? h.node)),
      h.intact.files.isLocked]
  · rw [hplace, hvolume, node?_setLocked, h.node]
  · have hnode' := h.intact.names.node hnode
    rw [hplace, h.node] at hnode'
    exact (Node.file.inj (Option.some.inj hnode')).symm

/-- Whoever lets go of a lock leaves all names as they are. -/
theorem Turn.of_release {event : Event} {lock : FileId} (hwell : c.volume.WellFormed)
    (hvolume : c'.volume = c.volume.setLocked lock false)
    (hlocks : c.locks.Perm (lock :: c'.locks)) : Turn path c event c' := by
  refine .drops lock hlocks ?_ (fun id => ?_) fun id hnode => ?_
  · rw [hvolume]
    exact hwell.setLocked lock false
  · rw [hvolume, unlocked_iff]
  · rw [hvolume, node?_setLocked]
    exact hnode

theorem turn_enter (hwell : c.volume.WellFormed) (create : Bool) :
    Turn path c (.enter create) (happen path c (.enter create)) := by
  simp only [happen]
  cases hopen : Directory.openAt c.volume path create with
  | mk u outcome =>
    cases outcome with
    | error e =>
      have hintact := (Directory.openAt_error hwell hopen).1
      exact .rests (List.Perm.refl _) hintact.files (keepsName_of_extends hintact.names)
    | ok directory =>
      obtain ⟨w, p, hsecured, _, hvolume⟩ := Directory.openAt_ok hwell hopen
      exact .of_secured hsecured (Directory.checkText_of_openAt hopen) hvolume (List.Perm.refl _)

/-- The engine file has another name than the lock file. -/
theorem turn_furnish (hwell : c.volume.WellFormed) (n : Nat) :
    Turn path c (.furnish n) (happen path c (.furnish n)) := by
  simp only [happen]
  cases hheld : c.held[n]? with
  | none => exact .rests (List.Perm.refl _) (Leaves.refl hwell) fun _ hnode => hnode
  | some directory =>
    cases hopen : c.volume.openOrCreate (Directory.dataPath directory.text) with
    | error e =>
      simp only [hopen]
      exact .rests (List.Perm.refl _) (Leaves.refl hwell) fun _ hnode => hnode
    | ok opened =>
      have hfile : c.volume.openFile (Directory.dataPath directory.text) true = .ok opened := hopen
      simp only [hopen]
      exact .rests (List.Perm.refl _) (Engine.leaves_openFile hwell hfile)
        (keepsName_of_extends (extends_openOrCreate hopen))

theorem turn_leave (hwell : c.volume.WellFormed) (n : Nat) :
    Turn path c (.leave n) (happen path c (.leave n)) := by
  simp only [happen]
  cases hheld : c.held[n]? with
  | none => exact .rests (List.Perm.refl _) (Leaves.refl hwell) fun _ hnode => hnode
  | some directory =>
    obtain ⟨hn, rfl⟩ := List.getElem?_eq_some_iff.mp hheld
    refine .of_release hwell rfl ?_
    exact ((List.getElem_cons_eraseIdx_perm hn).symm.map Directory.lock).append_right _

/-! ## The steps of a destruction -/

/-- One destruction has come to a new stage. -/
def replace (c : Contest) (n : Nat) (v : Volume) (removal : Removal) : Contest :=
  { c with volume := v, removals := c.removals.set n removal }

/-- The locks of everybody but one destruction. -/
def otherLocks (c : Contest) (n : Nat) : List FileId :=
  c.held.map Directory.lock ++ (c.removals.eraseIdx n).filterMap Removal.lock?

theorem perm_locks_replace {n : Nat} (hn : n < c.removals.length) (v : Volume)
    (removal : Removal) :
    (c.replace n v removal).locks.Perm (removal.lock?.toList ++ c.otherLocks n) := by
  have hset := (List.set_perm_cons_eraseIdx hn removal).filterMap Removal.lock?
  have hcons : (removal :: c.removals.eraseIdx n).filterMap Removal.lock? =
      removal.lock?.toList ++ (c.removals.eraseIdx n).filterMap Removal.lock? := by
    rw [List.filterMap_cons]
    cases removal.lock? <;> rfl
  rw [hcons] at hset
  exact (hset.append_left _).trans (List.perm_append_comm_assoc _ _ _)

theorem perm_locks {n : Nat} {removal : Removal} (h : c.removals[n]? = some removal) :
    c.locks.Perm (removal.lock?.toList ++ c.otherLocks n) := by
  obtain ⟨hn, rfl⟩ := List.getElem?_eq_some_iff.mp h
  have hsame : c.replace n c.volume c.removals[n] = c := by
    rw [replace, List.set_getElem_self]
  have hperm := perm_locks_replace hn c.volume c.removals[n]
  rw [hsame] at hperm
  exact hperm

section Steps

variable {n : Nat} {removal removal' : Removal} {lock : FileId} {event : Event}
  (h : c.removals[n]? = some removal)

include h

theorem locks_replace_of_same (hlock : removal'.lock? = removal.lock?) (v : Volume) :
    (c.replace n v removal').locks.Perm c.locks := by
  have hafter := perm_locks_replace (List.getElem?_eq_some_iff.mp h).1 v removal'
  rw [hlock] at hafter
  exact hafter.trans (perm_locks h).symm

theorem locks_replace_of_taken (hlock : removal.lock? = none) (hlock' : removal'.lock? = some lock)
    (v : Volume) : (c.replace n v removal').locks.Perm (lock :: c.locks) := by
  have hafter := perm_locks_replace (List.getElem?_eq_some_iff.mp h).1 v removal'
  have hbefore := perm_locks h
  rw [hlock'] at hafter
  rw [hlock] at hbefore
  exact hafter.trans (hbefore.symm.cons lock)

theorem locks_replace_of_dropped (hlock : removal.lock? = some lock)
    (hlock' : removal'.lock? = none) (v : Volume) :
    c.locks.Perm (lock :: (c.replace n v removal').locks) := by
  have hafter := perm_locks_replace (List.getElem?_eq_some_iff.mp h).1 v removal'
  have hbefore := perm_locks h
  rw [hlock'] at hafter
  rw [hlock] at hbefore
  exact hbefore.trans (hafter.symm.cons lock)

/-- A step that does nothing to the volume. -/
theorem Turn.of_idle (hwell : c.volume.WellFormed) (hlock : removal'.lock? = removal.lock?) :
    Turn path c event (c.replace n c.volume removal') :=
  .rests (locks_replace_of_same h hlock _) (Leaves.refl hwell) fun _ hnode => hnode

end Steps

theorem turn_begun {n : Nat} (hwell : c.volume.WellFormed) (h : c.removals[n]? = some .begun) :
    Turn path c (.advance n) (c.replace n (Removal.step path c.volume .begun).1
      (Removal.step path c.volume .begun).2) := by
  simp only [Removal.step]
  split
  · rename_i hthere
    cases hacquire : Directory.acquire c.volume path with
    | mk u outcome =>
      cases outcome with
      | error e =>
        obtain ⟨rfl, _⟩ := Directory.acquire_error hacquire
        exact .of_idle h hwell rfl
      | ok lock =>
        obtain ⟨p, w, hleads, hreadies, hfree, hvolume⟩ := Directory.acquire_ok hacquire
        have hintact := hreadies.intact hwell hleads
        exact .of_secured
          ⟨hintact, hleads.mono hintact.names.keepsDirectories, hreadies.node, hfree⟩
          (checkText_of_isThere hthere) hvolume (locks_replace_of_taken h rfl rfl u)
  · exact .of_idle h hwell rfl

theorem turn_locked {n : Nat} {lock : FileId} (hwell : c.volume.WellFormed)
    (h : c.removals[n]? = some (.locked lock)) :
    Turn path c (.advance n) (c.replace n (Removal.step path c.volume (.locked lock)).1
      (Removal.step path c.volume (.locked lock)).2) := by
  simp only [Removal.step]
  split
  · split
    · rename_i u hremove
      refine .rests (locks_replace_of_same h (by rfl) u)
        ((Renames.of_removeFile hremove).leaves hwell) ?_
      obtain ⟨hfits, p, hleads⟩ := leads_of_removeFile regular_data hremove
      rw [Directory.dataPath, removeFile_join regular_data hfits hleads] at hremove
      split at hremove
      · simp at hremove
      · simp at hremove
      · refine keepsName_of_unlink (q := p ++ ["data.redb"]) (by simp) ?_
          (Except.ok.inj hremove).symm
        rw [lockName, hleads.place_eq]
        simp
    · exact .of_release hwell rfl (locks_replace_of_dropped h rfl rfl _)
  · exact .of_idle h hwell rfl

theorem turn_unlocked {n : Nat} (hwell : c.volume.WellFormed)
    (h : c.removals[n]? = some .unlocked) :
    Turn path c (.advance n) (c.replace n (Removal.step path c.volume .unlocked).1
      (Removal.step path c.volume .unlocked).2) := by
  simp only [Removal.step]
  split
  · rename_i u hremove
    have hleaves := (Renames.of_removeFile hremove).leaves hwell
    obtain ⟨hfits, p, hleads⟩ := leads_of_removeFile regular_lock hremove
    have hfind := find_join regular_lock hfits hleads
    rw [Directory.lockPath, removeFile_join regular_lock hfits hleads] at hremove
    cases hnode : c.volume.node? (p ++ ["LOCK"]) with
    | none => simp [hnode] at hremove
    | some node =>
      cases node with
      | directory => simp [hnode] at hremove
      | file id =>
        rw [hnode] at hfind
        refine .strips (locks_replace_of_same h (by rfl) u) hleaves
          (by rw [lockName, hleads.place_eq, hnode]) fun hlocked => ⟨n, rfl, h, ?_⟩
        unfold Directory.isHeld Directory.lockPath
        rw [hfind]
        exact hlocked
  · exact .of_idle h hwell rfl

theorem turn_cleared {n : Nat} (hwell : c.volume.WellFormed)
    (h : c.removals[n]? = some .cleared) :
    Turn path c (.advance n) (c.replace n (Removal.step path c.volume .cleared).1
      (Removal.step path c.volume .cleared).2) := by
  simp only [Removal.step]
  rcases Directory.removed_cases c.volume path with hkept | ⟨q, _, hne, hnode, _, hremoved⟩
  · rw [hkept]
    exact .of_idle h hwell rfl
  · rw [hremoved]
    have hkeeps : KeepsName path c
        (c.replace n (c.volume.unlink q) (.finished (.ok ()))) := by
      intro id hlock
      -- The lock file is no directory.
      refine keepsName_of_unlink hne ?_ rfl id hlock
      rintro rfl
      simp [hlock] at hnode
    exact .rests (locks_replace_of_same h (by rfl) _) ((renames_unlink _ q).leaves hwell) hkeeps

theorem turn_advance (hwell : c.volume.WellFormed) (n : Nat) :
    Turn path c (.advance n) (happen path c (.advance n)) := by
  simp only [happen]
  cases h : c.removals[n]? with
  | none => exact .rests (List.Perm.refl _) (Leaves.refl hwell) fun _ hnode => hnode
  | some removal =>
    cases removal with
    | begun => exact turn_begun hwell h
    | locked lock => exact turn_locked hwell h
    | emptied lock => exact .of_release hwell rfl (locks_replace_of_dropped h rfl rfl _)
    | unlocked => exact turn_unlocked hwell h
    | cleared => exact turn_cleared hwell h
    | finished outcome => exact .of_idle h hwell rfl

/-- What each turn does. -/
theorem turn (hwell : c.volume.WellFormed) (path : String) (event : Event) :
    Turn path c event (happen path c event) := by
  cases event with
  | enter create => exact turn_enter hwell create
  | furnish n => exact turn_furnish hwell n
  | leave n => exact turn_leave hwell n
  | begin =>
    refine .rests ?_ (Leaves.refl hwell) fun _ hnode => hnode
    have hbegun : [Removal.begun].filterMap Removal.lock? = [] := rfl
    simp only [happen, locks, List.filterMap_append, hbegun, List.append_nil]
    exact List.Perm.refl _
  | advance n => exact turn_advance hwell n

end Contest

namespace Removal

/-- No step moves the directory where paths begin. -/
theorem workingDirectory_step (text : String) (v : Volume) (removal : Removal) :
    (step text v removal).1.workingDirectory = v.workingDirectory := by
  cases removal with
  | begun =>
    have hextends := (Directory.extends_acquire v text).workingDirectory
    simp only [step]
    split
    · cases hacquire : Directory.acquire v text with
      | mk w outcome =>
        rw [hacquire] at hextends
        cases outcome <;> exact hextends
    · rfl
  | locked lock =>
    simp only [step]
    split
    · split
      · rename_i w hremove
        obtain ⟨path, rfl⟩ := eq_unlink_of_removeFile hremove
        rfl
      · rfl
    · rfl
  | emptied lock => rfl
  | unlocked =>
    simp only [step]
    split
    · rename_i w hremove
      obtain ⟨path, rfl⟩ := eq_unlink_of_removeFile hremove
      rfl
    · rfl
  | cleared =>
    simp only [step]
    rcases Directory.removed_cases v text with hkept | ⟨path, _, _, _, _, hremoved⟩
    · rw [hkept]
    · rw [hremoved]
      rfl
  | finished outcome => rfl

end Removal

namespace Contest

variable {c c' : Contest} {path : String} {v : Volume} {event : Event}

theorem workingDirectory_happen (path : String) (c : Contest) (event : Event) :
    (happen path c event).volume.workingDirectory = c.volume.workingDirectory := by
  cases event with
  | enter create =>
    have hextends := (Directory.extends_openAt c.volume path create).workingDirectory
    simp only [happen]
    cases hopen : Directory.openAt c.volume path create with
    | mk u outcome =>
      rw [hopen] at hextends
      cases outcome <;> exact hextends
  | furnish n =>
    simp only [happen]
    split
    · rfl
    · split
      · rename_i hopen
        exact (extends_openOrCreate hopen).workingDirectory
      · rfl
  | leave n =>
    simp only [happen]
    split <;> rfl
  | begin => rfl
  | advance n =>
    simp only [happen]
    split
    · rfl
    · exact Removal.workingDirectory_step path c.volume _

theorem lockName_happen (path : String) (c : Contest) (event : Event) :
    (happen path c event).lockName path = c.lockName path := by
  rw [lockName, place_of_workingDirectory (workingDirectory_happen path c event), lockName]

/-! ## No lock is shared -/

/-- The files that are locked are those that are held, each by one. -/
structure Account (path : String) (c : Contest) : Prop where
  wellFormed : c.volume.WellFormed
  nodup : c.locks.Nodup
  locked : ∀ id, c.volume.isLocked id = true ↔ id ∈ c.locks
  check : c.locks ≠ [] → checkText path = .ok ()

theorem account_start (hwell : v.WellFormed) (hfree : ∀ id, v.isLocked id = false) :
    Account path (start v) where
  wellFormed := hwell
  nodup := List.nodup_nil
  locked id := by simp [start, locks, hfree id]
  check h := absurd rfl h

theorem Account.of_leaves (h : Account path c) (hlocks : c'.locks.Perm c.locks)
    (hfiles : c.volume.Leaves c'.volume) : Account path c' where
  wellFormed := hfiles.wellFormed
  nodup := hlocks.nodup_iff.mpr h.nodup
  locked id := by rw [hfiles.isLocked, h.locked, hlocks.mem_iff]
  check hne := h.check fun hnil => hne (List.Perm.eq_nil (hnil ▸ hlocks))

/-- One turn. -/
theorem Account.happen (h : Account path c) (event : Event) :
    Account path (happen path c event) := by
  cases turn h.wellFormed path event with
  | rests hlocks hfiles _ => exact h.of_leaves hlocks hfiles
  | strips hlocks hfiles _ _ => exact h.of_leaves hlocks hfiles
  | takes lock hlocks hwell hfree hlocked hcheck _ _ =>
    have hnew : lock ∉ c.locks := by
      rw [← h.locked, hfree]
      exact Bool.false_ne_true
    refine ⟨hwell, hlocks.nodup_iff.mpr (List.nodup_cons.mpr ⟨hnew, h.nodup⟩), fun id => ?_,
      fun _ => hcheck⟩
    rw [hlocked, h.locked, hlocks.mem_iff, List.mem_cons]
  | drops lock hlocks hwell hlocked _ =>
    obtain ⟨hgone, hnodup⟩ := List.nodup_cons.mp (hlocks.nodup_iff.mp h.nodup)
    refine ⟨hwell, hnodup, fun id => ?_, fun _ => h.check fun hnil => ?_⟩
    · rw [hlocked, h.locked, hlocks.mem_iff, List.mem_cons]
      constructor
      · rintro ⟨hne, hid⟩
        exact hid.resolve_left hne
      · intro hid
        refine ⟨?_, Or.inr hid⟩
        rintro rfl
        exact hgone hid
    · exact absurd (hnil ▸ hlocks) (by simp)

/-- Any number of turns. -/
theorem Account.run (h : Account path c) (events : List Event) :
    Account path (run path c events) := by
  induction events generalizing c with
  | nil => exact h
  | cons event rest ih => exact ih (h.happen event)

/-! ## As long as nothing is stolen -/

/-- Whoever holds a lock holds the file that has the name. -/
def Named (path : String) (c : Contest) : Prop :=
  ∀ id ∈ c.locks, c.volume.node? (c.lockName path) = some (.file id)

/-- So there is one of them at most. -/
theorem Named.length_le (h : Named path c) (haccount : Account path c) : c.locks.length ≤ 1 := by
  cases hlocks : c.locks with
  | nil => simp
  | cons lock rest =>
    have hrest : rest = [] := by
      refine List.eq_nil_iff_forall_not_mem.mpr fun id hid => ?_
      have hlock := h lock (by simp [hlocks])
      rw [h id (by simp [hlocks, hid])] at hlock
      obtain rfl := Node.file.inj (Option.some.inj hlock)
      have hnodup := haccount.nodup
      rw [hlocks] at hnodup
      exact (List.nodup_cons.mp hnodup).1 hid
    simp [hrest]

/-- A fair turn. -/
theorem Named.happen (h : Named path c) (haccount : Account path c)
    (hfair : ¬ Steals path c event) : Named path (happen path c event) := by
  intro id hid
  rw [lockName_happen]
  cases turn haccount.wellFormed path event with
  | rests hlocks _ hname => exact hname id (h id (hlocks.mem_iff.mp hid))
  | strips hlocks _ hnode hsteals =>
    -- Had somebody the lock whose name goes, it would be stolen.
    have hmem := hlocks.mem_iff.mp hid
    rw [h id hmem] at hnode
    obtain rfl := Node.file.inj (Option.some.inj hnode)
    exact absurd (hsteals ((haccount.locked id).mpr hmem)) hfair
  | takes lock hlocks _ hfree _ _ hname hbefore =>
    rcases List.mem_cons.mp (hlocks.mem_iff.mp hid) with rfl | hmem
    · exact hname
    · -- Nobody can take the lock while somebody has it.
      obtain rfl := hbefore id (h id hmem)
      rw [(haccount.locked id).mpr hmem] at hfree
      exact absurd hfree.symm Bool.false_ne_true
  | drops lock hlocks _ _ hname =>
    exact hname id (h id (hlocks.mem_iff.mpr (List.mem_cons_of_mem _ hid)))

/-- A fair run. -/
theorem Named.run {events : List Event} (h : Named path c) (haccount : Account path c)
    (hfair : Fair path c events) : Named path (run path c events) := by
  induction events generalizing c with
  | nil => exact h
  | cons event rest ih => exact ih (h.happen haccount hfair.1) (haccount.happen event) hfair.2

/-! ## Once it has been stolen -/

theorem node?_of_isHeld (h : Directory.isHeld v path = true) :
    checkText (Directory.lockPath path) = .ok () ∧ ∃ p lock, v.Leads path p ∧
      v.node? (p ++ ["LOCK"]) = some (.file lock) ∧ v.isLocked lock = true := by
  unfold Directory.isHeld Directory.lockPath at h
  cases hfind : v.find (Directory.join path "LOCK") with
  | error e => simp [hfind] at h
  | ok found =>
    obtain ⟨hfits, p, hleads⟩ := leads_of_find regular_lock hfind
    rw [hfind] at h
    rw [find_join regular_lock hfits hleads] at hfind
    cases hnode : v.node? (p ++ ["LOCK"]) with
    | none => simp [hnode] at hfind
    | some node =>
      rw [hnode] at hfind
      obtain rfl := Except.ok.inj hfind
      cases node with
      | directory => simp at h
      | file lock => exact ⟨hfits, p, lock, hleads, hnode, h⟩

/-- Where there is no lock file, whoever opens the directory gets a new one. -/
theorem openAt_of_none {p : Path} (hcheck : checkText path = .ok ())
    (hfits : checkText (Directory.lockPath path) = .ok ()) (h : v.Leads path p)
    (hnone : v.node? (p ++ ["LOCK"]) = none) (create : Bool) :
    ∃ u lock, Directory.openAt v path create = (u, .ok ⟨path, lock⟩) := by
  have hextends := extends_addFile hnone
  have hacquire : Directory.acquire v path =
      ((v.addFile (p ++ ["LOCK"])).1.setLocked v.files.fresh true, .ok v.files.fresh) := by
    rw [(Readies.made hnone).acquire_eq hfits h]
    exact Directory.acquire_of_free hfits (h.mono hextends.keepsDirectories)
      (Readies.made hnone).node (isLocked_addFile v _)
  refine ⟨(v.addFile (p ++ ["LOCK"])).1.setLocked v.files.fresh true, v.files.fresh, ?_⟩
  unfold Directory.openAt
  rw [if_pos (isThere_of_leads hcheck h), Directory.enter_of_leads hcheck h, hacquire]
  rfl

/-- After a theft the next caller gets in, whoever is there. -/
theorem Steals.intrudes (h : Steals path c event) (haccount : Account path c) (create : Bool) :
    2 ≤ (happen path (happen path c event) (.enter create)).locks.length := by
  obtain ⟨n, rfl, hremoval, hheld⟩ := h
  obtain ⟨hfits, p, lock, hleads, hnode, hlocked⟩ := node?_of_isHeld hheld
  have hmem := (haccount.locked lock).mp hlocked
  have hcheck := haccount.check (List.ne_nil_of_mem hmem)
  have hstep := Directory.step_unlocked hfits hleads hnode
  have hstolen : happen path c (.advance n) =
      c.replace n (c.volume.unlink (p ++ ["LOCK"])) .cleared := by
    simp only [happen, hremoval, hstep]
    rfl
  have hkept : (c.replace n (c.volume.unlink (p ++ ["LOCK"])) .cleared).locks.Perm c.locks :=
    locks_replace_of_same hremoval (by rfl) _
  have hleads' : (c.volume.unlink (p ++ ["LOCK"])).Leads path p := by
    refine hleads.mono ⟨rfl, fun {q} hq => ?_⟩
    rw [node?_unlink _ _ (by simp), if_neg]
    · exact hq
    · rintro rfl
      simp [hnode] at hq
  have hgone : (c.volume.unlink (p ++ ["LOCK"])).node? (p ++ ["LOCK"]) = none := by
    rw [node?_unlink _ _ (by simp), if_pos rfl]
  obtain ⟨u, new, hopen⟩ := openAt_of_none hcheck hfits hleads' hgone create
  rw [hstolen]
  simp only [happen, replace, hopen, locks, List.map_cons, List.cons_append, List.length_cons]
  have hlength := hkept.length_eq
  have hpos := List.length_pos_of_mem hmem
  simp only [locks, replace] at hlength hpos ⊢
  omega

/-! ## All runs -/

/-- Who can be in a directory at the end of a run. -/
structure Excludes (path : String) (v : Volume) (events : List Event) : Prop where
  /-- No two hold the same file. -/
  apart : (run path (start v) events).locks.Nodup
  /-- As long as nothing is stolen, one at most is there, be it with the directory open or
  destroying the database. -/
  single : Fair path (start v) events → (run path (start v) events).locks.length ≤ 1
  /-- In particular one at most has the directory open. -/
  held : Fair path (start v) events → (run path (start v) events).held.length ≤ 1
  /-- Nobody has it open while a destruction is about to remove the engine file. -/
  spared : Fair path (start v) events → ∀ lock,
    .locked lock ∈ (run path (start v) events).removals → (run path (start v) events).held = []
  /-- As soon as it is stolen, the next caller is let in. -/
  stolen : ∀ event, Steals path (run path (start v) events) event → ∀ create,
    2 ≤ (run path (start v) (events ++ [event, .enter create])).locks.length

/-- One at a time has a directory, in any order of turns, unless a destruction steals the name
of the lock file from under a holder. -/
theorem exclusive_unless_stolen (hwell : v.WellFormed) (hfree : ∀ id, v.isLocked id = false)
    (path : String) (events : List Event) : Excludes path v events := by
  have haccount : Account path (run path (start v) events) :=
    (account_start hwell hfree).run events
  have hsingle (hfair : Fair path (start v) events) :
      (run path (start v) events).locks.length ≤ 1 :=
    ((show Named path (start v) from fun _ hid => absurd hid List.not_mem_nil).run
      (account_start hwell hfree) hfair).length_le haccount
  refine ⟨haccount.nodup, hsingle, fun hfair => ?_, fun hfair lock hmem => ?_,
    fun event hsteals create => ?_⟩
  · have hlength := hsingle hfair
    simp only [locks, List.length_append, List.length_map] at hlength
    omega
  · have hlength := hsingle hfair
    have hlock : lock ∈ (run path (start v) events).removals.filterMap Removal.lock? :=
      List.mem_filterMap.mpr ⟨.locked lock, hmem, rfl⟩
    have hpos := List.length_pos_of_mem hlock
    simp only [locks, List.length_append, List.length_map] at hlength
    exact List.eq_nil_of_length_eq_zero (by omega)
  · simp only [run, List.foldl_append, List.foldl_cons, List.foldl_nil]
    exact hsteals.intrudes haccount create

/-- The theorem on a directory with a database that nobody has open. -/
theorem exclusive_unless_stolen_furnished :
    (∀ id, furnished.isLocked id = false) ∧
      Excludes "db" furnished [.enter true, .begin, .advance 0, .leave 0] :=
  ⟨free_furnished, exclusive_unless_stolen wellFormed_furnished free_furnished _ _⟩

/-- Two hold a directory: a destruction lets go of its lock, somebody opens the directory, the
destruction takes the lock file away, and somebody else opens the directory.  A second
destruction that has come in the same way then removes the engine file that the holder has made. -/
theorem two_holders :
    (run "db" (start furnished)
      [.begin, .advance 0, .advance 0, .advance 0, .enter true, .advance 0,
        .enter true]).held.length = 2 ∧
    ∃ c, c = run "db" (start furnished)
        [.begin, .advance 0, .advance 0, .advance 0, .enter true, .furnish 0, .advance 0,
          .begin, .advance 1] ∧
      c.held ≠ [] ∧ c.volume.isThere (Directory.dataPath "db") = true ∧
      (happen "db" c (.advance 1)).held = c.held ∧
      (happen "db" c (.advance 1)).volume.isThere (Directory.dataPath "db") = false := by
  refine ⟨by decide +kernel, _, rfl, ?_, ?_, ?_, ?_⟩ <;> decide +kernel

end Contest

end OrderedStore
