import OrderedStore.Proofs.Store.Opening
import OrderedStore.Proofs.Volume.Intact

/-!
# Databases that nobody has open

A database is at rest if nobody holds its files: its path leads nowhere yet, or to a
directory with an engine file or with none (`Rests`).  What opening, checking and destroying
do to it depends on nothing else, as long as the engine does not refuse its own files
(`Verdicts.Reopens`).  An open succeeds or leaves the database at rest with the same keyspace,
and adds no name but that of the lock file (`Rests.openPath_of_admits`,
`Rests.openPath_of_refuses`), a check leaves it so in any case (`Rests.checkPath`), and a
destroyed database is at rest with none (`Rests.destroy`).

The lock file may be missing.  It is made when the lock is taken, and from then on
all is as if it had been there (`Settled.prepare`).
-/

set_option autoImplicit false

namespace OrderedStore

/-- Would a database be opened that has an engine file, or has none? -/
def Options.admits (options : Options) (there : Bool) : Bool :=
  if there then !options.errorIfExists else options.createIfMissing

/-- Does somebody hold the lock of the database at a path? -/
def Directory.isHeld (v : Volume) (text : String) : Bool :=
  match v.find (lockPath text) with
  | .ok (_, .file lock) => v.isLocked lock
  | _ => false

namespace Volume

variable {v v' w : Volume} {text : String} {p : Path} {kept : Option Keyspace}

/-! ## At rest -/

/-- A path where there is nothing yet, and where a database can be made: once its directories
are there, it leads to one with no database in it.  Where it takes no step back, that is a new
one anyway (`creatable_of_grounded`). -/
structure Creatable (v : Volume) (text : String) : Prop where
  missing : v.isThere text = false
  made : (v.makeDirectories text).2 = .ok ()
  leads : (v.makeDirectories text).1.leadsToDirectory text = true
  fits : checkText (Directory.dataPath text) = .ok ()
  noLock : (v.makeDirectories text).1.isThere (Directory.lockPath text) = false
  noData : (v.makeDirectories text).1.isThere (Directory.dataPath text) = false

/-- The directory `p` of a database that nobody has open.  `kept` is what is in the engine
file, if there is one. -/
structure Settled (v : Volume) (text : String) (p : Path) (kept : Option Keyspace) : Prop where
  wellFormed : v.WellFormed
  check : checkText text = .ok ()
  fits : checkText (Directory.dataPath text) = .ok ()
  leads : v.Leads text p
  lock : ∀ node, v.node? (p ++ ["LOCK"]) = some node →
    ∃ lock, node = .file lock ∧ v.isLocked lock = false
  noData : kept = none → v.node? (p ++ ["data.redb"]) = none
  data : ∀ m, kept = some m → ∃ data, v.node? (p ++ ["data.redb"]) = some (.file data) ∧
    v.isLocked data = false ∧ v.contents data = .image m ∧
      v.node? (p ++ ["LOCK"]) ≠ some (.file data)

/-- A database that nobody has open. -/
inductive Rests (v : Volume) (text : String) : Option Keyspace → Prop where
  | missing (wellFormed : v.WellFormed) (creatable : v.Creatable text) : Rests v text none
  | settled {p : Path} {kept : Option Keyspace} (settled : v.Settled text p kept) :
    Rests v text kept

/-- No name has come but that of a lock file, and none has gone. -/
def AddsLock (v u : Volume) : Prop :=
  ∀ q, u.node? q = v.node? q ∨
    v.node? q = none ∧ q.getLast? = some "LOCK" ∧ ∃ lock, u.node? q = some (.file lock)

theorem AddsLock.of_nodes (h : v.AddsLock w) (hnames : ∀ q, v'.node? q = w.node? q) :
    v.AddsLock v' := fun q => by rw [hnames]; exact h q

theorem Readies.addsLock {lock : FileId} (h : v.Readies p lock w) : v.AddsLock w := by
  cases h with
  | there _ => exact fun _ => Or.inl rfl
  | made hnone =>
    intro q
    rw [node?_addFile v _ (by simp)]
    split
    · rename_i hq
      exact Or.inr ⟨hq ▸ hnone, by rw [hq, List.getLast?_concat], _, rfl⟩
    · exact Or.inl rfl

theorem Creatable.settled (h : v.Creatable text) (hwell : v.WellFormed) :
    ∃ p, (v.makeDirectories text).1.Settled text p none := by
  obtain ⟨hcheck, p, hleads⟩ := leadsToDirectory_iff.mp h.leads
  refine ⟨p, (renames_makeDirectories v text |>.spares hwell).wellFormed, hcheck, h.fits, hleads,
    fun node hnode => ?_, fun _ => ?_, fun m hm => by simp at hm⟩
  · have hlock := h.noLock
    rw [Directory.lockPath, isThere_join regular_lock (checkText_lockPath h.fits) hleads, hnode]
      at hlock
    exact absurd hlock (by simp)
  · have hdata := h.noData
    rw [Directory.dataPath, isThere_join regular_data h.fits hleads] at hdata
    exact Option.not_isSome_iff_eq_none.mp (by rw [hdata]; exact Bool.false_ne_true)

/-- Where every name is in a directory, there is nothing in a directory that has just been made. -/
theorem creatable_of_grounded (hgrounded : v.Grounded) (hdots : ".." ∉ names text)
    (hmissing : v.isThere text = false) (hmade : (v.makeDirectories text).2 = .ok ())
    (hleads : (v.makeDirectories text).1.leadsToDirectory text = true)
    (hfits : checkText (Directory.dataPath text) = .ok ()) : v.Creatable text := by
  obtain ⟨hcheck, p, hp⟩ := leadsToDirectory_iff.mp hleads
  have hgone : ∀ name, ((v.makeDirectories text).1.node? (p ++ [name])).isSome = false := by
    intro name
    rw [node?_makeDirectories hdots hp (by rw [List.length_append]; exact Nat.lt_succ_self _)]
    cases hnode : v.node? (p ++ [name]) with
    | none => rfl
    | some node =>
      have hthere := isThere_of_leads hcheck (leads_of_grounded hgrounded hdots hp
        (extends_makeDirectories v text).workingDirectory (hgrounded hnode))
      rw [hmissing] at hthere
      exact absurd hthere Bool.false_ne_true
  refine ⟨hmissing, hmade, hleads, hfits, ?_, ?_⟩
  · rw [Directory.lockPath, isThere_join regular_lock (checkText_lockPath hfits) hp, hgone]
  · rw [Directory.dataPath, isThere_join regular_data hfits hp, hgone]

namespace Settled

/-- Only names, locks and contents matter. -/
theorem congr (h : v.Settled text p kept) (hwell : v'.WellFormed)
    (hdirectory : v'.workingDirectory = v.workingDirectory)
    (hnode : ∀ q, v'.node? q = v.node? q) (hlocked : ∀ id, v'.isLocked id = v.isLocked id)
    (hcontents : ∀ id, v'.contents id = v.contents id) : v'.Settled text p kept where
  wellFormed := hwell
  check := h.check
  fits := h.fits
  leads := h.leads.mono (Extends.of_nodes hdirectory hnode).keepsDirectories
  lock node hsome := by
    rw [hnode] at hsome
    obtain ⟨lock, heq, hfree⟩ := h.lock node hsome
    exact ⟨lock, heq, (hlocked lock).trans hfree⟩
  noData hnone := (hnode _).trans (h.noData hnone)
  data m hm := by
    obtain ⟨data, hdata, hfree, himage, hne⟩ := h.data m hm
    refine ⟨data, (hnode _).trans hdata, (hlocked data).trans hfree,
      (hcontents data).trans himage, ?_⟩
    rw [hnode]
    exact hne

theorem isThere_data (h : v.Settled text p kept) :
    v.isThere (Directory.dataPath text) = kept.isSome := by
  rw [Directory.dataPath, isThere_join regular_data h.fits h.leads]
  cases hkept : kept with
  | none => rw [h.noData hkept]; rfl
  | some m =>
    obtain ⟨data, hdata, _⟩ := h.data m hkept
    rw [hdata]
    rfl

theorem not_isHeld (h : v.Settled text p kept) : Directory.isHeld v text = false := by
  unfold Directory.isHeld
  rw [Directory.lockPath, find_join regular_lock (checkText_lockPath h.fits) h.leads]
  cases hnode : v.node? (p ++ ["LOCK"]) with
  | none => rfl
  | some node =>
    obtain ⟨lock, rfl, hfree⟩ := h.lock node hnode
    exact hfree

/-- A lock file that is missing may be made beforehand. -/
theorem prepare (h : v.Settled text p kept) :
    ∃ w lock, w.Settled text p kept ∧ w.node? (p ++ ["LOCK"]) = some (.file lock) ∧
      w.isLocked lock = false ∧ Directory.acquire v text = Directory.acquire w text ∧
        v.AddsLock w := by
  obtain ⟨w, lock, hreadies, hfree⟩ := exists_readies h.lock
  have hintact := hreadies.intact h.wellFormed h.leads
  have hleads := h.leads.mono hintact.names.keepsDirectories
  refine ⟨w, lock, ⟨hintact.files.wellFormed, h.check, h.fits, hleads, fun node hsome => ?_,
    fun hnone => ?_, fun m hm => ?_⟩, hreadies.node, hfree,
    hreadies.acquire_eq (checkText_lockPath h.fits) h.leads, hreadies.addsLock⟩
  · rw [hreadies.node] at hsome
    exact ⟨lock, (Option.some.inj hsome).symm, hfree⟩
  · rw [hreadies.node?_of_ne (by simp)]
    exact h.noData hnone
  · obtain ⟨data, hdata, hdataFree, himage, hother⟩ := h.data m hm
    refine ⟨data, hintact.names.node hdata, ?_, ?_, fun hsame => ?_⟩
    · rw [hintact.files.isLocked, hdataFree]
    · rw [hintact.files.contents, himage]
    · -- A lock file that is new is no engine file either.
      rw [hreadies.node] at hsame
      obtain rfl := Node.file.inj (Option.some.inj hsame)
      cases hreadies with
      | there hlock => exact hother hlock
      | made _ => exact h.wellFormed.ne_fresh_of_node? hdata rfl

/-- Taking the lock and letting it go leaves the database at rest. -/
theorem relock (h : v.Settled text p kept) {lock : FileId} (hfree : v.isLocked lock = false) :
    ((v.setLocked lock true).setLocked lock false).Settled text p kept := by
  refine h.congr ((h.wellFormed.setLocked _ _).setLocked _ _) rfl (fun q => ?_) (fun id => ?_)
    fun id => ?_
  · rw [node?_setLocked, node?_setLocked]
  · rw [isLocked_setLocked]
    split
    · rename_i heq
      rw [heq, hfree, Bool.and_false]
    · rename_i hne
      exact isLocked_setLocked_of_ne v true hne
  · rw [contents_setLocked, contents_setLocked]

end Settled

/-! ## What the lock decides -/

section Congr

variable (hcheck : checkText text = .ok ()) (h : v.Leads text p) (hw : w.Leads text p)
  (hacquire : Directory.acquire v text = Directory.acquire w text)

include hcheck h hw hacquire

theorem openAt_congr (create : Bool) :
    Directory.openAt v text create = Directory.openAt w text create := by
  unfold Directory.openAt
  rw [isThere_of_leads hcheck h, isThere_of_leads hcheck hw, if_pos rfl, if_pos rfl,
    Directory.enter_of_leads hcheck h, Directory.enter_of_leads hcheck hw, hacquire]

theorem openPath_congr (options : Options) (verdicts : Verdicts) :
    Engine.openPath v text options verdicts = Engine.openPath w text options verdicts := by
  unfold Engine.openPath
  rw [openAt_congr hcheck h hw hacquire]

theorem checkPath_congr (verdicts : Verdicts) :
    Engine.checkPath v text verdicts = Engine.checkPath w text verdicts := by
  unfold Engine.checkPath
  rw [openAt_congr hcheck h hw hacquire]

theorem destroy_congr : Directory.destroy v text = Directory.destroy w text := by
  have hstep : Removal.step text v .begun = Removal.step text w .begun := by
    simp only [Removal.step]
    rw [isThere_of_leads hcheck h, isThere_of_leads hcheck hw, if_pos rfl, if_pos rfl, hacquire]
  unfold Directory.destroy
  rw [Removal.length, Removal.steps_succ, hstep, ← Removal.steps_succ]

end Congr

namespace Settled

/-! ## Opening -/

section Locked

variable (h : v.Settled text p kept) (lock : FileId)

include h

theorem hasData_locked :
    Directory.hasData (v.setLocked lock true) ⟨text, lock⟩ = kept.isSome := by
  have hleads := h.leads.setLocked lock true
  rw [← h.isThere_data]
  unfold Directory.hasData Directory.dataPath
  rw [isThere_join regular_data h.fits hleads, isThere_join regular_data h.fits h.leads,
    node?_setLocked]

theorem openExisting_locked (hkept : kept = none) :
    (v.setLocked lock true).openExisting (Directory.dataPath text) = .error .notFound := by
  have hleads := h.leads.setLocked lock true
  rw [Directory.dataPath, openExisting_join regular_data h.fits hleads, node?_setLocked,
    h.noData hkept]

/-- There is nothing to open, and nothing may be made. -/
theorem openChecked_of_none (hkept : kept = none) (checks : Bool) (verdicts : Verdicts) :
    Engine.openChecked (v.setLocked lock true) ⟨text, lock⟩ false checks verdicts =
      (v.setLocked lock true, false, .error (.ofFault (.io FileError.notFound.text))) := by
  refine Engine.openChecked_of_error ?_ checks
  unfold Engine.openData openFile
  simp only [openExisting_locked h lock hkept]
  rfl

/-- An engine file that is made has nothing in it. -/
theorem openChecked_create (hkept : kept = none) {verdicts : Verdicts}
    (hreopens : verdicts.Reopens) (checks : Bool) :
    ∃ u data, Engine.openChecked (v.setLocked lock true) ⟨text, lock⟩ true checks verdicts =
      (u, false, .ok ⟨some ⟨⟨text, lock⟩, data⟩, .empty, false⟩) := by
  have hleads := h.leads.setLocked lock true
  have hopen := openOrCreate_join regular_data h.fits hleads
  have hfree := isLocked_addFile (v.setLocked lock true) (p ++ ["data.redb"])
  have hnew := contents_addFile (v.setLocked lock true) (p ++ ["data.redb"])
  rw [node?_setLocked, h.noData hkept] at hopen
  generalize (v.setLocked lock true).addFile (p ++ ["data.redb"]) = added at hopen hfree hnew
  have hopened : Engine.openData (v.setLocked lock true) ⟨text, lock⟩ true verdicts =
      ((added.1.setContents added.2 (.image .empty)).setLocked added.2 true,
        .ok (⟨some ⟨⟨text, lock⟩, added.2⟩, .empty, false⟩, .raw [])) := by
    unfold Engine.openData openFile
    simp only [if_true]
    rw [show (v.setLocked lock true).openOrCreate (Directory.dataPath text) = .ok added from hopen]
    simp only [hfree, hnew, hreopens.adopts]
    rfl
  exact ⟨_, _, hreopens.openChecked hopened⟩

end Locked

/-- Whoever asks for what is there opens it. -/
theorem openPath_of_admits (h : v.Settled text p kept) {options : Options}
    (hadmits : options.admits kept.isSome = true) {verdicts : Verdicts}
    (hreopens : verdicts.Reopens) :
    ∃ u engine, Engine.openPath v text options verdicts = (u, .ok engine) ∧
      engine.latest = kept.getD .empty := by
  obtain ⟨w, lock, hw, hlock, hfree, hacquire, _⟩ := h.prepare
  rw [openPath_congr h.check h.leads hw.leads hacquire]
  cases hkept : kept with
  | some m =>
    rw [hkept] at hadmits
    have hexists : options.errorIfExists = false := by simpa [Options.admits] using hadmits
    obtain ⟨data, hdata, hdataFree, himage, hne⟩ := hw.data m hkept
    rw [hlock] at hne
    refine ⟨_, _, Engine.openPath_of_free hw.check hw.fits hw.leads hlock hdata hfree hdataFree
      (fun heq => hne (by rw [heq])) hreopens hexists (by rw [himage]; rfl), rfl⟩
  | none =>
    rw [hkept] at hadmits
    have hcreate : options.createIfMissing = true := hadmits
    obtain ⟨u, data, hopen⟩ := hw.openChecked_create lock hkept hreopens options.paranoidChecks
    have hhas := hw.hasData_locked lock
    rw [hkept] at hhas
    refine ⟨u, ⟨some ⟨⟨text, lock⟩, data⟩, .empty, false⟩, ?_, rfl⟩
    unfold Engine.openPath
    rw [Engine.openAt_of_free hw.check hw.fits hw.leads hlock hfree]
    simp only [Engine.openIn, hhas, Option.isSome_none, Bool.false_and, hcreate, hopen]
    rfl

/-- Whoever does not ask for what is there leaves it as it is. -/
theorem openPath_of_refuses (h : v.Settled text p kept) {options : Options}
    (hadmits : options.admits kept.isSome = false) (verdicts : Verdicts) :
    ∃ u e, Engine.openPath v text options verdicts = (u, .error e) ∧ u.Settled text p kept ∧
      (kept = none → e.kind = .io) ∧ v.AddsLock u := by
  obtain ⟨w, lock, hw, hlock, hfree, hacquire, hadds⟩ := h.prepare
  have hhas := hw.hasData_locked lock
  have hopenIn : ∃ e, Engine.openIn (w.setLocked lock true) ⟨text, lock⟩ options verdicts =
      (w.setLocked lock true, false, .error e) ∧ (kept = none → e.kind = .io) := by
    unfold Engine.openIn
    rw [hhas]
    cases hkept : kept with
    | some m =>
      rw [hkept] at hadmits
      have hexists : options.errorIfExists = true := by simpa [Options.admits] using hadmits
      rw [hexists]
      exact ⟨_, rfl, fun hnone => by simp at hnone⟩
    | none =>
      rw [hkept] at hadmits
      have hcreate : options.createIfMissing = false := hadmits
      rw [hcreate, Option.isSome_none, Bool.false_and, if_neg Bool.false_ne_true,
        hw.openChecked_of_none lock hkept]
      exact ⟨_, rfl, fun _ => rfl⟩
  obtain ⟨e, hopenIn, hkind⟩ := hopenIn
  refine ⟨(w.setLocked lock true).setLocked lock false, e, ?_, hw.relock hfree, hkind,
    fun q => ?_⟩
  · rw [openPath_congr h.check h.leads hw.leads hacquire]
    unfold Engine.openPath
    rw [Engine.openAt_of_free hw.check hw.fits hw.leads hlock hfree]
    simp only [hopenIn]
    rfl
  · rw [node?_setLocked, node?_setLocked]
    exact hadds q

/-! ## Checking -/

/-- An engine that has opened the file of a database at rest and lets go of it. -/
theorem release_opened (h : v.Settled text p kept) {lock data : FileId} {m : Keyspace}
    (hfree : v.isLocked lock = false) (hdataFree : v.isLocked data = false)
    (himage : v.contents data = .image m) :
    (Engine.release (((v.setLocked lock true).setContents data (.image m)).setLocked data true)
      ⟨some ⟨⟨text, lock⟩, data⟩, m, false⟩).Settled text p kept := by
  unfold Engine.release Directory.release
  refine h.congr (((((h.wellFormed.setLocked _ _).setContents _ _).setLocked _ _).setLocked
    _ _).setLocked _ _) rfl (fun q => ?_) (fun id => ?_) fun id => ?_
  · simp only [node?_setLocked, node?_setContents]
  · simp only [isLocked_setLocked, isLocked_setContents, Bool.and_false]
    by_cases hlock : id = lock
    · rw [if_pos hlock, hlock, hfree]
    · by_cases hdata : id = data
      · rw [if_neg hlock, if_pos hdata, hdata, hdataFree]
      · rw [if_neg hlock, if_neg hdata, if_neg hdata, if_neg hlock]
  · simp only [contents_setLocked, contents_setContents]
    split
    · rename_i heq
      rw [heq.1, himage]
    · rfl

/-- A check succeeds if there is an engine file, and changes nothing. -/
theorem checkPath (h : v.Settled text p kept) {verdicts : Verdicts}
    (hreopens : verdicts.Reopens) :
    (Engine.checkPath v text verdicts).1.Settled text p kept ∧
      (Engine.checkPath v text verdicts).2.isOk = kept.isSome := by
  obtain ⟨w, lock, hw, hlock, hfree, hacquire, _⟩ := h.prepare
  rw [checkPath_congr h.check h.leads hw.leads hacquire]
  have hopened := Engine.openAt_of_free hw.check hw.fits hw.leads hlock hfree false
  cases hkept : kept with
  | some m =>
    obtain ⟨data, hdata, hdataFree, himage, hne⟩ := hw.data m hkept
    rw [hlock] at hne
    have hjudge : Engine.judge false (w.contents data) = .ok m := by
      rw [himage]
      rfl
    have hopen := Engine.openChecked_of_free hw.fits hw.leads hdata hdataFree
      (fun heq => hne (by rw [heq])) hreopens hjudge true
    have hreleased := hw.release_opened hfree hdataFree himage
    rw [hkept] at hreleased
    unfold Engine.checkPath
    rw [hopened]
    simp only [hopen]
    exact ⟨hreleased, rfl⟩
  | none =>
    have hreleased := hw.relock hfree
    rw [hkept] at hreleased
    unfold Engine.checkPath
    rw [hopened]
    simp only [hw.openChecked_of_none lock hkept]
    exact ⟨hreleased, rfl⟩

/-! ## Destroying -/

/-- Once its files are gone, the directory is left without them. -/
theorem emptied (h : v.Settled text p kept) {lock : FileId}
    (hlock : v.node? (p ++ ["LOCK"]) = some (.file lock))
    (hdata : v.node? (p ++ ["data.redb"]) ≠ some .directory) :
    (Directory.emptied v p lock).Settled text p none := by
  have hnode := Directory.node?_emptied v p lock
  refine ⟨?_, h.check, h.fits, h.leads.mono (Directory.keepsDirectories_emptied hlock hdata),
    fun node hsome => ?_, fun _ => ?_, fun m hm => by simp at hm⟩
  · have hunlinked := (renames_unlink (v.setLocked lock true) (p ++ ["data.redb"])).spares
      (h.wellFormed.setLocked lock true)
    exact ((renames_unlink _ (p ++ ["LOCK"])).spares
      (hunlinked.wellFormed.setLocked lock false)).wellFormed
  · rw [hnode, if_pos rfl] at hsome
    simp at hsome
  · rw [hnode, if_neg (by simp), if_pos rfl]

/-- A directory that has been removed can be made again. -/
theorem creatable_of_removeDirectory (h : v.Settled text p none)
    (hremove : v.removeDirectory text = .ok v') : v'.WellFormed ∧ v'.Creatable text := by
  obtain ⟨q, slashed, htarget, hleads, hne, hnode, hchild, rfl⟩ := removeDirectory_cases hremove
  obtain rfl := h.leads.unique hleads
  obtain ⟨init, name, _, hnames, hdot, hdots, _, _⟩ := names_of_target htarget
  have hmade := makeDirectories_unlink h.check hnames hdot hdots h.leads hne hnode
  have hagain := h.leads.mono (extends_relink hne hnode).keepsDirectories
  have hgone : ∀ name, v.node? (p ++ [name]) = none := by
    intro name
    cases hname : v.node? (p ++ [name]) with
    | none => rfl
    | some node =>
      rw [hasChild_of_node? hname] at hchild
      exact absurd hchild Bool.noConfusion
  refine ⟨((renames_unlink v p).spares h.wellFormed).wellFormed,
    isThere_unlink h.check hnames hdot hdots h.leads hne, ?_, ?_, h.fits, ?_, ?_⟩
  · rw [hmade]
  · rw [hmade]
    exact leadsToDirectory_iff.mpr ⟨h.check, p, hagain⟩
  · rw [hmade, Directory.lockPath,
      isThere_join regular_lock (checkText_lockPath h.fits) hagain, node?_relink hne hnode, hgone]
    rfl
  · rw [hmade, Directory.dataPath, isThere_join regular_data h.fits hagain,
      node?_relink hne hnode, hgone]
    rfl

theorem destroy (h : v.Settled text p kept) :
    (Directory.destroy v text).1.Rests text none ∧ (Directory.destroy v text).2 = .ok () := by
  obtain ⟨w, lock, hw, hlock, hfree, hacquire, _⟩ := h.prepare
  have hdata : w.node? (p ++ ["data.redb"]) ≠ some .directory := by
    cases hkept : kept with
    | none => rw [hw.noData hkept]; simp
    | some m =>
      obtain ⟨data, hdata, _⟩ := hw.data m hkept
      rw [hdata]
      simp
  have hemptied := hw.emptied hlock hdata
  rw [destroy_congr h.check h.leads hw.leads hacquire,
    Directory.destroy_of_free (isThere_of_leads hw.check hw.leads) hw.fits hw.leads hlock hfree
      hdata]
  refine ⟨?_, rfl⟩
  cases hremove : (Directory.emptied w p lock).removeDirectory text with
  | error e => exact .settled hemptied
  | ok u =>
    obtain ⟨hwell, hcreatable⟩ := hemptied.creatable_of_removeDirectory hremove
    exact .missing hwell hcreatable

end Settled

namespace Rests

/-! ## All of it, wherever the database is -/

theorem wellFormed (h : v.Rests text kept) : v.WellFormed := by
  cases h with
  | missing hwell hcreatable => exact hwell
  | settled hsettled => exact hsettled.wellFormed

theorem not_leads_of_missing (h : v.Creatable text) (p : Path) : ¬ v.Leads text p := by
  obtain ⟨hcheck, _⟩ := leadsToDirectory_iff.mp h.leads
  intro hleads
  have hthere := h.missing
  rw [isThere_of_leads hcheck hleads] at hthere
  exact absurd hthere Bool.noConfusion

theorem isThere_data (h : v.Rests text kept) :
    v.isThere (Directory.dataPath text) = kept.isSome := by
  cases h with
  | missing hwell hcreatable =>
    exact isThere_join_eq_false regular_data hcreatable.fits fun p hleads =>
      absurd hleads (not_leads_of_missing hcreatable p)
  | settled hsettled => exact hsettled.isThere_data

theorem not_isHeld (h : v.Rests text kept) : Directory.isHeld v text = false := by
  cases h with
  | missing hwell hcreatable =>
    have hthere := isThere_join_eq_false (v := v) regular_lock (checkText_lockPath hcreatable.fits)
      fun p hleads => absurd hleads (not_leads_of_missing hcreatable p)
    unfold isThere at hthere
    unfold Directory.isHeld
    rw [Directory.lockPath]
    cases hfind : v.find (Directory.join text "LOCK") with
    | error e => rfl
    | ok found =>
      rw [hfind] at hthere
      simp [Except.isOk, Except.toBool] at hthere
  | settled hsettled => exact hsettled.not_isHeld

theorem openPath_of_admits (h : v.Rests text kept) {options : Options}
    (hadmits : options.admits kept.isSome = true) {verdicts : Verdicts}
    (hreopens : verdicts.Reopens) :
    ∃ u engine, Engine.openPath v text options verdicts = (u, .ok engine) ∧
      engine.latest = kept.getD .empty := by
  cases h with
  | missing hwell hcreatable =>
    obtain ⟨p, hmade⟩ := hcreatable.settled hwell
    have hopen := hmade.openPath_of_admits hadmits hreopens
    have hcreate : options.createIfMissing = true := hadmits
    -- Opening goes on from the directories that have been made.
    have hsame : Engine.openPath v text options verdicts =
        Engine.openPath (v.makeDirectories text).1 text options verdicts := by
      have hmakes : v.makeDirectories text = ((v.makeDirectories text).1, .ok ()) :=
        Prod.ext rfl hcreatable.made
      unfold Engine.openPath Directory.openAt
      rw [hcreatable.missing, hcreate, if_neg Bool.false_ne_true, if_pos rfl, hmakes,
        isThere_of_leads hmade.check hmade.leads, if_pos rfl]
    rw [hsame]
    exact hopen
  | settled hsettled => exact hsettled.openPath_of_admits hadmits hreopens

theorem openPath_of_refuses (h : v.Rests text kept) {options : Options}
    (hadmits : options.admits kept.isSome = false) (verdicts : Verdicts) :
    ∃ u e, Engine.openPath v text options verdicts = (u, .error e) ∧ u.Rests text kept ∧
      (kept = none → e.kind = .io) ∧ v.AddsLock u := by
  cases h with
  | missing hwell hcreatable =>
    have hcreate : options.createIfMissing = false := hadmits
    refine ⟨v, .io s!"{text}: does not exist (create_if_missing is false)", ?_,
      .missing hwell hcreatable, fun _ => rfl, fun _ => Or.inl rfl⟩
    unfold Engine.openPath Directory.openAt
    rw [hcreatable.missing, hcreate, if_neg Bool.false_ne_true, if_neg Bool.false_ne_true]
  | settled hsettled =>
    obtain ⟨u, e, hopen, hagain, hspares⟩ := hsettled.openPath_of_refuses hadmits verdicts
    exact ⟨u, e, hopen, .settled hagain, hspares⟩

theorem checkPath (h : v.Rests text kept) {verdicts : Verdicts} (hreopens : verdicts.Reopens) :
    (Engine.checkPath v text verdicts).1.Rests text kept ∧
      (Engine.checkPath v text verdicts).2.isOk = kept.isSome := by
  cases h with
  | missing hwell hcreatable =>
    unfold Engine.checkPath Directory.openAt
    rw [hcreatable.missing, if_neg Bool.false_ne_true, if_neg Bool.false_ne_true]
    exact ⟨.missing hwell hcreatable, rfl⟩
  | settled hsettled =>
    exact ⟨.settled (hsettled.checkPath hreopens).1, (hsettled.checkPath hreopens).2⟩

theorem destroy (h : v.Rests text kept) :
    (Directory.destroy v text).1.Rests text none ∧ (Directory.destroy v text).2 = .ok () := by
  cases h with
  | missing hwell hcreatable =>
    rw [Directory.destroy_of_missing hcreatable.missing]
    exact ⟨.missing hwell hcreatable, rfl⟩
  | settled hsettled => exact hsettled.destroy

end Rests

end Volume

end OrderedStore
