import OrderedStore.Proofs.Removal
import OrderedStore.Proofs.Store.Operation

/-!
# What opening and repairing do to the files

To open a database is to acquire its directory and to open its engine file; what has been
acquired is let go if the second fails.  `Engine.openPath` is that part of an open which
has to do with files, and `Engine.checkPath` that part of a repair.  `openAt_of_ok`,
`openAt_of_error` and `repair_eq` say that a store does just this to its volume.

If the directory is there with both its files, and nobody holds them, an open succeeds
(`openPath_of_free`).  If somebody holds the lock, open and repair fail and change nothing
(`openPath_of_held`, `checkPath_of_held`).
-/

set_option autoImplicit false

namespace OrderedStore

namespace Engine

open Volume

/-- Opens the database at a path, and lets go of the directory if its engine is not to be had. -/
def openPath (v : Volume) (text : String) (options : Options) (verdicts : Verdicts) :
    Volume × Except Error Engine :=
  match Directory.openAt v text options.createIfMissing with
  | (v, .error e) => (v, .error e)
  | (v, .ok directory) =>
    match openIn v directory options verdicts with
    | (v, _, .error e) => (directory.release v, .error e)
    | (v, _, .ok engine) => (v, .ok engine)

/-- Opens the engine file at a path, has it checked and closes it again. -/
def checkPath (v : Volume) (text : String) (verdicts : Verdicts) : Volume × Except Error Unit :=
  match Directory.openAt v text false with
  | (v, .error e) => (v, .error e)
  | (v, .ok directory) =>
    match openChecked v directory false true verdicts with
    | (v, _, .error e) => (directory.release v, .error e)
    | (v, _, .ok engine) => (engine.release v, .ok ())

variable {v v' w : Volume} {text : String} {options : Options} {p : Path} {lock data : FileId}
  {verdicts : Verdicts}

/-! ## Names -/

theorem extends_release (engine : Engine) (v : Volume) : v.Extends (engine.release v) := by
  unfold release
  split
  · exact Extends.refl v
  · exact (extends_setLocked _ _ _).trans (extends_setLocked _ _ _)

theorem extends_openPath (v : Volume) (text : String) (options : Options) (verdicts : Verdicts) :
    v.Extends (openPath v text options verdicts).1 := by
  have hacquired := Directory.extends_openAt v text options.createIfMissing
  unfold openPath
  cases hdirectory : Directory.openAt v text options.createIfMissing with
  | mk w outcome =>
    rw [hdirectory] at hacquired
    cases outcome with
    | error e => exact hacquired
    | ok directory =>
      have hopened := hacquired.trans (extends_openIn w directory options verdicts)
      simp only
      rcases hengine : openIn w directory options verdicts with ⟨u, rebuilt, e | engine⟩
      all_goals rw [hengine] at hopened
      · exact hopened.trans (extends_setLocked _ _ _)
      · exact hopened

theorem extends_checkPath (v : Volume) (text : String) (verdicts : Verdicts) :
    v.Extends (checkPath v text verdicts).1 := by
  have hacquired := Directory.extends_openAt v text false
  unfold checkPath
  cases hdirectory : Directory.openAt v text false with
  | mk w outcome =>
    rw [hdirectory] at hacquired
    cases outcome with
    | error e => exact hacquired
    | ok directory =>
      have hopened := hacquired.trans (extends_openChecked w directory false true verdicts)
      simp only
      rcases hengine : openChecked w directory false true verdicts with ⟨u, rebuilt, e | engine⟩
      all_goals rw [hengine] at hopened
      · exact hopened.trans (extends_setLocked _ _ _)
      · exact hopened.trans (extends_release engine u)

/-- The names of a database that has been opened lead to its files. -/
theorem home_of_openPath {engine : Engine}
    (h : openPath v text options verdicts = (v', .ok engine)) :
    checkText (Directory.dataPath text) = .ok () ∧
      ∃ lock data p, engine.home = some ⟨⟨text, lock⟩, data⟩ ∧ v'.Leads text p ∧
        v'.node? (p ++ ["LOCK"]) = some (.file lock) ∧
        v'.node? (p ++ ["data.redb"]) = some (.file data) := by
  unfold openPath at h
  cases hdirectory : Directory.openAt v text options.createIfMissing with
  | mk w outcome =>
    rw [hdirectory] at h
    cases outcome with
    | error e => simp at h
    | ok directory =>
      obtain ⟨htext, _, p, hleads, hlock⟩ := Directory.leads_of_openAt hdirectory
      have hextends := extends_openIn w directory options verdicts
      simp only at h
      rcases hengine : openIn w directory options verdicts with ⟨u, rebuilt, e | opened⟩
      all_goals rw [hengine] at h hextends
      · simp at h
      · obtain ⟨rfl, hok⟩ := Prod.mk.inj h
        obtain rfl := Except.ok.inj hok
        rw [← htext] at hleads
        obtain ⟨hcheck, data, hhome, hdata⟩ := home_of_openIn hleads hengine
        obtain ⟨found, lock⟩ := directory
        obtain rfl : found = text := htext
        exact ⟨hcheck, lock, data, p, hhome, hleads.mono hextends.keepsDirectories,
          hextends.node hlock, hdata⟩

theorem checkText_of_openPath {engine : Engine}
    (h : openPath v text options verdicts = (v', .ok engine)) : checkText text = .ok () := by
  unfold openPath at h
  split at h
  · simp at h
  · rename_i hdirectory
    exact Directory.checkText_of_openAt hdirectory

/-! ## A database that is there -/

end Engine

/-- The engine takes up every file that is good for it, finds nothing to mend in it and sets up
its keyspace. -/
structure Verdicts.Reopens (verdicts : Verdicts) : Prop where
  adopts : ∀ found, verdicts.refusal (.adopt (some found)) = none
  checks : ∀ found, verdicts.refusal (.check found) = none
  clean : ∀ found, verdicts.finding found = .clean
  setsUp : ∀ found, verdicts.Grants (.file found) []

theorem Verdicts.reopens_granting : granting.Reopens :=
  ⟨fun _ => rfl, fun _ => rfl, fun _ => rfl, fun _ => grants_granting _ _⟩

/-- Once the file has been taken up, nothing else can fail. -/
theorem Verdicts.Reopens.openChecked {verdicts : Verdicts} (h : verdicts.Reopens)
    {v w : Volume} {directory : Directory} {create checks : Bool} {engine : Engine}
    {found : Contents}
    (hdata : Engine.openData v directory create verdicts = (w, .ok (engine, found))) :
    Engine.openChecked v directory create checks verdicts =
      (engine.store w engine.latest, false, .ok engine) := by
  generalize hresult : Engine.openChecked v directory create checks verdicts = result
  have hending := Engine.ending_openChecked hdata checks
  rw [hresult] at hending
  cases hending with
  | opened hchecked _ =>
    cases hchecked with
    | kept => rfl
    | rebuilt _ hfinding =>
      rw [h.clean] at hfinding
      simp at hfinding
  | unsound _ hrefused =>
    rw [h.checks] at hrefused
    simp at hrefused
  | unset _ hrefused => exact absurd hrefused ((h.setsUp found).not_refuses _)

namespace Engine

open Volume

variable {v v' w : Volume} {text : String} {options : Options} {p : Path} {lock data : FileId}
  {verdicts : Verdicts}

section There

variable (hcheck : checkText text = .ok ()) (hfits : checkText (Directory.dataPath text) = .ok ())
  (h : v.Leads text p) (hlock : v.node? (p ++ ["LOCK"]) = some (.file lock))

include hcheck hfits h hlock

theorem openAt_of_held (hheld : v.isLocked lock = true) (create : Bool) :
    Directory.openAt v text create =
      (v, .error (.io s!"lock {Directory.lockPath text}: already held by process")) := by
  have hthere := isThere_of_leads hcheck h
  unfold Directory.openAt
  rw [hthere, if_pos rfl, Directory.enter_of_leads hcheck h,
    Directory.acquire_of_held (checkText_lockPath hfits) h hlock hheld]
  rfl

theorem openAt_of_free (hfree : v.isLocked lock = false) (create : Bool) :
    Directory.openAt v text create = (v.setLocked lock true, .ok ⟨text, lock⟩) := by
  have hthere := isThere_of_leads hcheck h
  unfold Directory.openAt
  rw [hthere, if_pos rfl, Directory.enter_of_leads hcheck h,
    Directory.acquire_of_free (checkText_lockPath hfits) h hlock hfree]
  rfl

theorem openPath_of_held (hheld : v.isLocked lock = true) (options : Options)
    (verdicts : Verdicts) :
    openPath v text options verdicts =
      (v, .error (.io s!"lock {Directory.lockPath text}: already held by process")) := by
  unfold openPath
  rw [openAt_of_held hcheck hfits h hlock hheld]

theorem checkPath_of_held (hheld : v.isLocked lock = true) (verdicts : Verdicts) :
    checkPath v text verdicts =
      (v, .error (.io s!"lock {Directory.lockPath text}: already held by process")) := by
  unfold checkPath
  rw [openAt_of_held hcheck hfits h hlock hheld]

variable (hdata : v.node? (p ++ ["data.redb"]) = some (.file data))
  (hfree : v.isLocked lock = false) (hdataFree : v.isLocked data = false) (hne : data ≠ lock)
  (hreopens : verdicts.Reopens)

include hdata hdataFree hne hreopens

omit hcheck hlock in
theorem openChecked_of_free {m : Keyspace} {create : Bool}
    (hjudge : judge create (v.contents data) = .ok m) (checks : Bool) :
    openChecked (v.setLocked lock true) ⟨text, lock⟩ create checks verdicts =
      (((v.setLocked lock true).setContents data (.image m)).setLocked data true, false,
        .ok ⟨some ⟨⟨text, lock⟩, data⟩, m, false⟩) := by
  have hopen := openFile_of_node hfits
    (h.mono (extends_setLocked v lock true).keepsDirectories)
    ((node?_setLocked v lock true _).trans hdata) create
  have hopened : openData (v.setLocked lock true) ⟨text, lock⟩ create verdicts =
      (((v.setLocked lock true).setContents data (.image m)).setLocked data true,
        .ok (⟨some ⟨⟨text, lock⟩, data⟩, m, false⟩, v.contents data)) := by
    unfold openData
    rw [hopen]
    simp only
    rw [isLocked_setLocked_of_ne v true hne, hdataFree, contents_setLocked, hjudge,
      hreopens.adopts]
    rfl
  rw [hreopens.openChecked hopened, store_of_home rfl, setContents_setLocked_setContents]

include hfree

theorem openPath_of_free {m : Keyspace} (hexists : options.errorIfExists = false)
    (hjudge : judge options.createIfMissing (v.contents data) = .ok m) :
    openPath v text options verdicts =
      (((v.setLocked lock true).setContents data (.image m)).setLocked data true,
        .ok ⟨some ⟨⟨text, lock⟩, data⟩, m, false⟩) := by
  unfold openPath
  rw [openAt_of_free hcheck hfits h hlock hfree]
  simp only
  unfold openIn
  rw [hexists, Bool.and_false, if_neg Bool.false_ne_true,
    openChecked_of_free hfits h hdata hdataFree hne hreopens hjudge]

end There

end Engine

namespace Store

variable {s : Store} {path : String} {options : Options} {v : Volume}

/-! ## The same on a store -/

theorem openAt_of_ok {engine : Engine}
    (h : Engine.openPath s.volume path options s.verdicts = (v, .ok engine)) :
    ∃ s' logger, s.openAt path options = (s', .ok s.sessions.fresh) ∧ s'.volume = v ∧
      s'.roster = s.roster.openSession ⟨logger, options, engine, 0, 0, []⟩ := by
  obtain ⟨hroster, hvolume, hverdicts⟩ := reported_allocateCache s (s.logger path) options
  rw [← hverdicts] at h
  unfold Engine.openPath at h
  unfold openAt
  simp only
  rw [hvolume]
  cases hdirectory : Directory.openAt s.volume path options.createIfMissing with
  | mk u outcome =>
    rw [hdirectory] at h
    cases outcome with
    | error e => simp at h
    | ok directory =>
      simp only at h ⊢
      rcases hengine : Engine.openIn u directory options
        (s.allocateCache (s.logger path) options).verdicts with ⟨w, rebuilt, e | opened⟩
      all_goals rw [hengine] at h
      · simp at h
      · obtain ⟨rfl, hok⟩ := Prod.mk.inj h
        obtain rfl := Except.ok.inj hok
        simp only
        obtain ⟨hroster', hvolume', _⟩ := reported_warnRebuilt
          { s.allocateCache (s.logger path) options with volume := w } (s.logger path) rebuilt
        have hsessions := congrArg Roster.sessions (hroster'.trans hroster)
        refine ⟨_, s.logger path,
          Prod.ext rfl (congrArg (fun t : Table .session Session => Except.ok t.fresh) hsessions),
          hvolume', ?_⟩
        exact congrArg (Roster.openSession · _) (hroster'.trans hroster)

theorem openAt_of_error {e : Error}
    (h : Engine.openPath s.volume path options s.verdicts = (v, .error e)) :
    ∃ s', s.openAt path options = (s', .error e) ∧ s'.volume = v ∧
      s'.roster = s.roster.skipSession := by
  obtain ⟨hroster, hvolume, hverdicts⟩ := reported_allocateCache s (s.logger path) options
  rw [← hverdicts] at h
  unfold Engine.openPath at h
  unfold openAt
  simp only
  rw [hvolume]
  cases hdirectory : Directory.openAt s.volume path options.createIfMissing with
  | mk u outcome =>
    rw [hdirectory] at h
    cases outcome with
    | error e' =>
      obtain ⟨rfl, herror⟩ := Prod.mk.inj h
      obtain rfl := Except.error.inj herror
      refine ⟨_, rfl, volume_abandon _ _ _, ?_⟩
      rw [roster_abandon]
      exact congrArg Roster.skipSession hroster
    | ok directory =>
      simp only at h ⊢
      rcases hengine : Engine.openIn u directory options
        (s.allocateCache (s.logger path) options).verdicts with ⟨w, rebuilt, e' | opened⟩
      all_goals rw [hengine] at h
      · obtain ⟨rfl, herror⟩ := Prod.mk.inj h
        obtain rfl := Except.error.inj herror
        have hwarned := reported_warnRebuilt
          { s.allocateCache (s.logger path) options with volume := directory.release w }
          (s.logger path) rebuilt
        refine ⟨_, rfl, (volume_abandon _ _ _).trans hwarned.volume, ?_⟩
        rw [roster_abandon, hwarned.roster]
        exact congrArg Roster.skipSession hroster
      · simp at h

theorem repair_eq (s : Store) (path : String) :
    (s.repair path).1.volume = (Engine.checkPath s.volume path s.verdicts).1 ∧
      (s.repair path).2 = (Engine.checkPath s.volume path s.verdicts).2 := by
  unfold repair Engine.checkPath
  simp only
  cases Directory.openAt s.volume path false with
  | mk u outcome =>
    cases outcome with
    | error e => exact ⟨rfl, rfl⟩
    | ok directory =>
      simp only
      rcases Engine.openChecked u directory false true s.verdicts with ⟨w, rebuilt, e | engine⟩
      · exact ⟨rfl, rfl⟩
      · exact ⟨rfl, rfl⟩

end Store

end OrderedStore
