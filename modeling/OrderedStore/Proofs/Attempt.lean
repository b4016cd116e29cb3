import OrderedStore.Proofs.Store.Opening
import OrderedStore.Proofs.Volume.Intact

/-!
# Attempts that fail

To open a database takes three things one after the other: the directories on the way, the
lock and the engine file.  Each of them can fail, the engine file also after it has been taken up,
and what has been taken before is then given back.  What is left of a failed open or check is told
by `Engine.attempted_of_openPath` and `Engine.attempted_of_checkPath`: at most the engine file has
changed, and if the engine leaves alone what it refuses (`Verdicts.LeavesRefused`), the volume is
intact.

Only one failure says that somebody has the lock (`Directory.refusal`), and only if there is
a lock file that is held does it come about.  That no other failure of a directory has the same
words is seen from the last letter; what words the engine uses is up to it.
-/

set_option autoImplicit false

namespace OrderedStore

open Volume

/-! ## The words of a refusal -/

/-- How a directory is refused whose lock somebody has. -/
def Directory.refusal (text : String) : Error :=
  .io s!"lock {Directory.lockPath text}: already held by process"

theorem getLast?_append_toList (a : String) {b : String} (hb : b.toList ≠ []) :
    (a ++ b).toList.getLast? = b.toList.getLast? := by
  rw [String.toList_append, List.getLast?_append_of_ne_nil _ hb]

/-- A refusal ends with a letter that hardly any message ends with. -/
theorem io_ne_refusal {message : String} (h : message.toList.getLast? ≠ some 's')
    (text : String) : Error.io message ≠ Directory.refusal text := by
  intro heq
  have hlast : message.toList.getLast? = some 's' := by
    rw [Error.io.inj heq]
    exact getLast?_append_toList _ (by decide)
  exact h hlast

theorem failure_ne_refusal (e : FileError) (text : String) :
    Directory.failure e ≠ Directory.refusal text :=
  io_ne_refusal (by cases e <;> decide) text

namespace Image

theorem checkSlots_error {bytes : Bytes} {offsets : List Nat} {fault : Fault}
    (h : checkSlots bytes offsets = .error fault) :
    ∃ version, checkVersion version = .error fault := by
  induction offsets with
  | nil => simp [checkSlots] at h
  | cons offset rest ih =>
    unfold checkSlots at h
    split at h
    · rename_i hversion
      rw [Except.error.inj h] at hversion
      exact ⟨_, hversion⟩
    · exact ih h

/-- Whatever is wrong with an engine file, nobody takes it for a held lock. -/
theorem ofFault_ne_refusal {create : Bool} {bytes : Bytes} {fault : Fault}
    (h : judge create bytes = .error fault) (text : String) :
    Error.ofFault fault ≠ Directory.refusal text := by
  unfold judge at h
  split at h
  · split at h
    · simp at h
    · rw [← Except.error.inj h]
      exact io_ne_refusal (by decide) text
  · split at h
    · rw [← Except.error.inj h]
      exact io_ne_refusal (by decide) text
    · split at h
      · rw [← Except.error.inj h]
        exact io_ne_refusal (by decide) text
      · split at h
        · rename_i hslots
          rw [Except.error.inj h] at hslots
          obtain ⟨version, hversion⟩ := checkSlots_error hslots
          unfold checkVersion at hversion
          split at hversion
          · rw [← Except.error.inj hversion]
            exact fun heq => Error.noConfusion heq
          · split at hversion
            · simp at hversion
            · rw [← Except.error.inj hversion]
              exact fun heq => Error.noConfusion heq
        · split at h
          · simp at h
          · rw [← Except.error.inj h]
            exact fun heq => Error.noConfusion heq

end Image

namespace Directory

variable {v v' w : Volume} {text : String} {p : Path} {lock : FileId} {directory : Directory}
  {e : Error} {create : Bool}

/-! ## The lock -/

theorem readies_of_openOrCreate (h : v.openOrCreate (lockPath text) = .ok (w, lock)) :
    ∃ p, v.Leads text p ∧ v.Readies p lock w := by
  obtain ⟨hcheck, p, hleads⟩ := leads_of_openOrCreate regular_lock h
  refine ⟨p, hleads, ?_⟩
  rw [lockPath, openOrCreate_join regular_lock hcheck hleads] at h
  split at h
  · rename_i hnone
    have hopened := Except.ok.inj h
    obtain rfl : (v.addFile (p ++ ["LOCK"])).1 = w := congrArg Prod.fst hopened
    obtain rfl : v.files.fresh = lock := congrArg Prod.snd hopened
    exact .made hnone
  · simp at h
  · rename_i hnode
    obtain ⟨rfl, rfl⟩ := Prod.mk.inj (Except.ok.inj h)
    exact .there hnode

/-- A lock that is not to be had leaves no trace. -/
theorem acquire_error (h : acquire v text = (v', .error e)) :
    v' = v ∧ (e = refusal text → v.Taken text) := by
  unfold acquire at h
  cases hopen : v.openOrCreate (lockPath text) with
  | error failed =>
    rw [hopen] at h
    obtain ⟨rfl, herror⟩ := Prod.mk.inj h
    refine ⟨rfl, fun hrefused => absurd ?_ (failure_ne_refusal failed text)⟩
    rw [Except.error.inj herror, hrefused]
  | ok opened =>
    obtain ⟨w, lock⟩ := opened
    obtain ⟨p, hleads, hreadies⟩ := readies_of_openOrCreate hopen
    rw [hopen] at h
    simp only at h
    split at h
    · rename_i hlocked
      obtain ⟨rfl, _⟩ := Prod.mk.inj h
      cases hreadies with
      | there hnode => exact ⟨rfl, fun _ => ⟨lock, by rw [hleads.place_eq, hnode], hlocked⟩⟩
      | made _ =>
        -- A lock file that has just been made is free.
        have hfree := isLocked_addFile v (p ++ ["LOCK"])
        rw [show (v.addFile (p ++ ["LOCK"])).2 = v.files.fresh from rfl, hlocked] at hfree
        simp at hfree
    · simp at h

theorem acquire_ok (h : acquire v text = (v', .ok lock)) :
    ∃ p w, v.Leads text p ∧ v.Readies p lock w ∧ w.isLocked lock = false ∧
      v' = w.setLocked lock true := by
  unfold acquire at h
  cases hopen : v.openOrCreate (lockPath text) with
  | error failed =>
    rw [hopen] at h
    simp at h
  | ok opened =>
    obtain ⟨w, found⟩ := opened
    obtain ⟨p, hleads, hreadies⟩ := readies_of_openOrCreate hopen
    rw [hopen] at h
    simp only at h
    split at h
    · simp at h
    · rename_i hfree
      obtain ⟨rfl, hlock⟩ := Prod.mk.inj h
      obtain rfl := Except.ok.inj hlock
      exact ⟨p, w, hleads, hreadies, Bool.eq_false_iff.mpr hfree, rfl⟩

/-- The volume `w` at the moment when the lock of the directory `p` is about to be taken. -/
structure Secured (text : String) (v w : Volume) (p : Path) (lock : FileId) : Prop where
  intact : Intact text v w
  leads : w.Leads text p
  node : w.node? (p ++ ["LOCK"]) = some (.file lock)
  free : w.isLocked lock = false

theorem Secured.wellFormed (h : Secured text v w p lock) : (w.setLocked lock true).WellFormed :=
  h.intact.files.wellFormed.setLocked _ _

theorem Secured.leads_locked (h : Secured text v w p lock) : (w.setLocked lock true).Leads text p :=
  h.leads.setLocked lock true

theorem Secured.place_eq (h : Secured text v w p lock) : v.place text = p := by
  rw [← h.intact.place_eq, h.leads.place_eq]

/-! ## The directory -/

theorem enter_error (h : enter v text = (v', .error e)) :
    v' = v ∧ (e = refusal text → v.Taken text) := by
  unfold enter at h
  split at h
  · cases hacquire : acquire v text with
    | mk w outcome =>
      rw [hacquire] at h
      cases outcome with
      | ok lock => simp [Except.map] at h
      | error failed =>
        obtain ⟨rfl, herror⟩ := Prod.mk.inj h
        obtain rfl := Except.error.inj herror
        exact acquire_error hacquire
  · obtain ⟨rfl, herror⟩ := Prod.mk.inj h
    refine ⟨rfl, fun hrefused => absurd (Except.error.inj herror) ?_⟩
    rw [hrefused]
    refine io_ne_refusal ?_ text
    rw [getLast?_append_toList _ (by decide)]
    decide

theorem enter_ok (hwell : v.WellFormed) (h : enter v text = (v', .ok directory)) :
    ∃ w p, Secured text v w p directory.lock ∧ directory.text = text ∧
      v' = w.setLocked directory.lock true := by
  unfold enter at h
  split at h
  · cases hacquire : acquire v text with
    | mk u outcome =>
      rw [hacquire] at h
      cases outcome with
      | error failed => simp [Except.map] at h
      | ok lock =>
        obtain ⟨rfl, hdirectory⟩ := Prod.mk.inj h
        obtain rfl := Except.ok.inj hdirectory
        obtain ⟨p, w, hleads, hreadies, hfree, rfl⟩ := acquire_ok hacquire
        have hintact := hreadies.intact hwell hleads
        exact ⟨w, p, ⟨hintact, hleads.mono hintact.names.keepsDirectories, hreadies.node, hfree⟩,
          rfl, rfl⟩
  · simp at h

theorem openAt_error (hwell : v.WellFormed) (h : openAt v text create = (v', .error e)) :
    Intact text v v' ∧ (e = refusal text → v.Taken text) := by
  unfold openAt at h
  split at h
  · obtain ⟨rfl, htaken⟩ := enter_error h
    exact ⟨Intact.refl hwell, htaken⟩
  · split at h
    · have hmade := intact_makeDirectories hwell text
      split at h
      · rename_i u hmake
        rw [hmake] at hmade
        obtain ⟨rfl, htaken⟩ := enter_error h
        exact ⟨hmade, fun hrefused => hmade.taken (htaken hrefused)⟩
      · rename_i u failed hmake
        rw [hmake] at hmade
        obtain ⟨rfl, herror⟩ := Prod.mk.inj h
        refine ⟨hmade, fun hrefused => absurd ?_ (failure_ne_refusal failed text)⟩
        rw [Except.error.inj herror, hrefused]
    · obtain ⟨rfl, herror⟩ := Prod.mk.inj h
      refine ⟨Intact.refl hwell, fun hrefused => absurd (Except.error.inj herror) ?_⟩
      rw [hrefused]
      refine io_ne_refusal ?_ text
      rw [getLast?_append_toList _ (by decide)]
      decide

theorem openAt_ok (hwell : v.WellFormed) (h : openAt v text create = (v', .ok directory)) :
    ∃ w p, Secured text v w p directory.lock ∧ directory.text = text ∧
      v' = w.setLocked directory.lock true := by
  unfold openAt at h
  split at h
  · exact enter_ok hwell h
  · split at h
    · have hmade := intact_makeDirectories hwell text
      split at h
      · rename_i u hmake
        rw [hmake] at hmade
        obtain ⟨w, p, hsecured, htext, hvolume⟩ := enter_ok hmade.files.wellFormed h
        exact ⟨w, p, ⟨hmade.trans hsecured.intact, hsecured.leads, hsecured.node, hsecured.free⟩,
          htext, hvolume⟩
      · simp at h
    · simp at h

end Directory

/-- The engine leaves a file that it refuses as it is.  So it does not refuse one in which it has
already written. -/
structure Verdicts.LeavesRefused (verdicts : Verdicts) : Prop where
  /-- A file that it has made. -/
  made : verdicts.refusal (.adopt (some (.raw []))) = none
  /-- A file that it has taken up as a database for the first time. -/
  written : ∀ bytes, verdicts.refusal (.check (.raw bytes)) = none ∧
    verdicts.Grants (.file (.raw bytes)) []
  /-- A file that it has rebuilt. -/
  mended : ∀ {found : Contents} {left : Keyspace}, verdicts.finding found = .rebuilt left →
    verdicts.Grants (.file found) []

namespace Engine

variable {v v' w : Volume} {text : String} {p : Path} {data : FileId} {directory : Directory}
  {engine : Engine} {e : Error} {create checks rebuilt : Bool} {options : Options}
  {verdicts : Verdicts}

/-! ## The engine file -/

theorem leaves_openFile (hwell : v.WellFormed)
    (h : v.openFile text create = .ok (w, data)) : v.Leaves w := by
  unfold openFile at h
  split at h
  · obtain ⟨path, ⟨_, rfl⟩ | ⟨_, rfl, _⟩⟩ := openOrCreate_cases h
    · exact Leaves.refl hwell
    · exact leaves_addFile hwell path
  · cases hexisting : v.openExisting text with
    | error failed =>
      rw [hexisting] at h
      simp [Except.map] at h
    | ok found =>
      rw [hexisting] at h
      rw [← (Prod.mk.inj (Except.ok.inj h)).1]
      exact Leaves.refl hwell

/-- A file that an open has made is good for an engine. -/
theorem openFile_cases (h : v.openFile text create = .ok (w, data)) :
    w = v ∨ w.isLocked data = false ∧ w.contents data = .raw [] ∧ create = true := by
  unfold openFile at h
  split at h
  · rename_i hcreate
    obtain ⟨path, ⟨_, rfl⟩ | ⟨_, rfl, rfl⟩⟩ := openOrCreate_cases h
    · exact Or.inl rfl
    · exact Or.inr ⟨isLocked_addFile v path, contents_addFile v path, hcreate⟩
  · cases hexisting : v.openExisting text with
    | error failed =>
      rw [hexisting] at h
      simp [Except.map] at h
    | ok found =>
      rw [hexisting] at h
      exact Or.inl (Prod.mk.inj (Except.ok.inj h)).1.symm

theorem confines_openFile (hwell : v.WellFormed) (hleads : v.Leads text p)
    (h : v.openFile (Directory.dataPath text) create = .ok (w, data)) :
    v.Confines (p ++ ["data.redb"]) w := by
  obtain ⟨hfits, _⟩ := node?_of_openFile hleads h
  rcases openFile_cases h with rfl | ⟨_, _, rfl⟩
  · exact Confines.refl hwell _
  · have hopen : v.openOrCreate (Directory.dataPath text) = .ok (w, data) := by
      simpa [openFile] using h
    rw [Directory.dataPath, openOrCreate_join regular_data hfits hleads] at hopen
    split at hopen
    · rename_i hnone
      obtain rfl : (v.addFile (p ++ ["data.redb"])).1 = w :=
        congrArg Prod.fst (Except.ok.inj hopen)
      exact confines_addFile hwell (by simp) hnone
    · simp at hopen
    · obtain rfl : v = w := congrArg Prod.fst (Except.ok.inj hopen)
      exact Confines.refl hwell _

/-! ### How the engine is not to be had -/

theorem openData_error (h : openData v directory create verdicts = (v', .error e)) :
    (v' = v ∧ ∀ text, e ≠ Directory.refusal text) ∨
      ∃ data, v.openFile (Directory.dataPath directory.text) create = .ok (v', data) ∧
        verdicts.Says e ∧ (verdicts.LeavesRefused → v' = v) := by
  unfold openData at h
  cases hopen : v.openFile (Directory.dataPath directory.text) create with
  | error failed =>
    rw [hopen] at h
    obtain ⟨rfl, herror⟩ := Prod.mk.inj h
    rw [← Except.error.inj herror]
    exact Or.inl ⟨rfl, failure_ne_refusal failed⟩
  | ok opened =>
    obtain ⟨w, data⟩ := opened
    have hcases := openFile_cases hopen
    rw [hopen] at h
    simp only at h
    split at h
    · rename_i hlocked
      obtain ⟨rfl, herror⟩ := Prod.mk.inj h
      rw [← Except.error.inj herror]
      refine Or.inl ⟨hcases.resolve_right fun ⟨hfree, _⟩ => ?_, io_ne_refusal (by decide)⟩
      rw [hfree] at hlocked
      exact Bool.false_ne_true hlocked
    · split at h
      · rename_i fault hjudge
        obtain ⟨rfl, herror⟩ := Prod.mk.inj h
        rw [← Except.error.inj herror]
        refine Or.inl ⟨hcases.resolve_right fun ⟨_, hnew, hcreate⟩ => ?_, fun text => ?_⟩
        · rw [hnew, hcreate] at hjudge
          simp [judge, Image.judge] at hjudge
        · cases hcontents : w.contents data with
          | image keyspace =>
            rw [hcontents] at hjudge
            simp [judge] at hjudge
          | raw bytes =>
            rw [hcontents] at hjudge
            exact Image.ofFault_ne_refusal hjudge text
      · split at h
        · rename_i fault hrefused
          obtain ⟨rfl, herror⟩ := Prod.mk.inj h
          rw [← Except.error.inj herror]
          refine Or.inr ⟨data, rfl, Verdicts.says_of_refusal hrefused, fun hleaves =>
            hcases.resolve_right fun ⟨_, hnew, _⟩ => ?_⟩
          rw [hnew, hleaves.made] at hrefused
          simp at hrefused
        · simp at h

/-- An opening that fails once the file has been taken up lets it go again. -/
theorem openChecked_error_cases
    (h : openChecked v directory create checks verdicts = (v', rebuilt, .error e)) :
    openData v directory create verdicts = (v', .error e) ∨
      ∃ w data m, v.openFile (Directory.dataPath directory.text) create = .ok (w, data) ∧
        w.isLocked data = false ∧ verdicts.Says e ∧
        v' = ((w.setContents data (.image m)).setLocked data true).setLocked data false ∧
        (verdicts.LeavesRefused → w = v ∧ w.contents data = .image m) := by
  rcases hdata : openData v directory create verdicts with ⟨u, failed | ⟨engine, found⟩⟩
  · rw [openChecked_of_error hdata] at h
    cases h
    exact Or.inl rfl
  · obtain ⟨w, data, m, hopen, hfree, hfound, hjudge, _, rfl, rfl⟩ := openData_ok hdata
    -- A file that the engine has written itself it would not have refused.
    have hkept : (∀ bytes, found ≠ .raw bytes) → w = v ∧ w.contents data = .image m := by
      intro hraw
      cases found with
      | raw bytes => exact absurd rfl (hraw bytes)
      | image keyspace =>
        refine ⟨(openFile_cases hopen).resolve_right fun ⟨_, hnew, _⟩ => ?_, ?_⟩
        · rw [hfound] at hnew
          simp at hnew
        · rw [hfound, ← Except.ok.inj hjudge]
    have hending := ending_openChecked hdata checks
    rw [h] at hending
    refine Or.inr ?_
    cases hending with
    | unsound _ hrefused =>
      refine ⟨w, data, m, hopen, hfree, Verdicts.says_of_refusal hrefused, rfl,
        fun hleaves => hkept ?_⟩
      rintro bytes rfl
      rw [(hleaves.written bytes).1] at hrefused
      simp at hrefused
    | unset hchecked hrefused =>
      cases hchecked with
      | kept =>
        refine ⟨w, data, m, hopen, hfree, hrefused.says, rfl, fun hleaves => hkept ?_⟩
        rintro bytes rfl
        exact (hleaves.written bytes).2.not_refuses _ hrefused
      | @rebuilt left _ hfinding =>
        refine ⟨w, data, left, hopen, hfree, hrefused.says, ?_, fun hleaves =>
          absurd hrefused ((hleaves.mended hfinding).not_refuses _)⟩
        rw [store_of_home rfl, setContents_setLocked_setContents]
        rfl

/-- What is left by an engine that is not to be had, whose file has the name `path`. -/
structure Fails (verdicts : Verdicts) (path : Path) (v v' : Volume) (e : Error) : Prop where
  /-- If anything has changed, it is the engine file. -/
  confines : v.Confines path v'
  unchanged : verdicts.LeavesRefused → v.Unchanged v'
  /-- That the lock is held is not what has gone wrong. -/
  words : ∀ text, e = Directory.refusal text → verdicts.Says e

theorem Fails.refl (hwell : v.WellFormed) (path : Path) (h : ∀ text, e ≠ Directory.refusal text) :
    Fails verdicts path v v e :=
  ⟨Confines.refl hwell path, fun _ => Unchanged.refl hwell, fun text heq => absurd heq (h text)⟩

theorem fails_openData (hwell : v.WellFormed) (hleads : v.Leads directory.text p)
    (h : openData v directory create verdicts = (v', .error e)) :
    Fails verdicts (p ++ ["data.redb"]) v v' e := by
  rcases openData_error h with ⟨rfl, hne⟩ | ⟨data, hopen, hsays, hkept⟩
  · exact .refl hwell _ hne
  · refine ⟨confines_openFile hwell hleads hopen, fun hleaves => ?_, fun _ _ => hsays⟩
    rw [hkept hleaves]
    exact Unchanged.refl hwell

theorem fails_openChecked (hwell : v.WellFormed) (hleads : v.Leads directory.text p)
    (h : openChecked v directory create checks verdicts = (v', rebuilt, .error e)) :
    Fails verdicts (p ++ ["data.redb"]) v v' e := by
  rcases openChecked_error_cases h with hdata | ⟨w, data, m, hopen, hfree, hsays, rfl, hkept⟩
  · exact fails_openData hwell hleads hdata
  · obtain ⟨_, hnode⟩ := node?_of_openFile hleads hopen
    have hwritten := (confines_openFile hwell hleads hopen).setContents hnode hfree (.image m)
    have hunlocked : (w.setContents data (.image m)).isLocked data = false := by
      rw [isLocked_setContents, hfree]
    have hconfines := hwritten.congr (unchanged_relock hwritten.wellFormed hunlocked)
    refine ⟨hconfines, fun hleaves => ?_, fun _ _ => hsays⟩
    obtain ⟨rfl, himage⟩ := hkept hleaves
    refine hconfines.unchanged (fun id => ?_) fun hnone => ?_
    · rw [contents_setLocked, contents_setLocked, contents_setContents]
      split
      · rename_i hid
        rw [hid.1, himage]
      · rfl
    · rw [node?_setLocked, node?_setLocked, node?_setContents, hnone]

theorem fails_openIn (hwell : v.WellFormed) (hleads : v.Leads directory.text p)
    (h : openIn v directory options verdicts = (v', rebuilt, .error e)) :
    Fails verdicts (p ++ ["data.redb"]) v v' e := by
  unfold openIn at h
  split at h
  · cases h
    exact .refl hwell _ fun text heq => Error.noConfusion heq
  · exact fails_openChecked hwell hleads h

/-! ## Opening and checking -/

/-- What is left by an open or a check that fails, whatever it has come to. -/
structure Attempted (verdicts : Verdicts) (text : String) (v v' : Volume) (e : Error) :
    Prop where
  tried : Tried text v v'
  intact : verdicts.LeavesRefused → Intact text v v'
  /-- Only who has the lock, or an engine that says the same, keeps others out like this. -/
  words : e = Directory.refusal text → v.Taken text ∨ verdicts.Says e

/-- What is left of an engine that is not to be had once the lock has been let go again. -/
theorem Fails.attempted {lock : FileId} (hsecured : Directory.Secured text v w p lock)
    (h : Fails verdicts (p ++ ["data.redb"]) (w.setLocked lock true) v' e) :
    Attempted verdicts text v (v'.setLocked lock false) e := by
  have hconfines := h.confines.relock hsecured.free
  refine ⟨⟨w, hsecured.intact, hsecured.place_eq ▸ hconfines⟩, fun hleaves =>
    hsecured.intact.trans (hconfines.unchanged (fun id => ?_) fun hnone => ?_).intact,
    fun hrefused => Or.inr (h.words _ hrefused)⟩
  · rw [contents_setLocked, (h.unchanged hleaves).files.contents, contents_setLocked]
  · rw [node?_setLocked, (h.unchanged hleaves).node, node?_setLocked, hnone]

theorem attempted_of_openAt (hwell : v.WellFormed)
    (h : Directory.openAt v text create = (v', .error e)) : Attempted verdicts text v v' e := by
  obtain ⟨hintact, htaken⟩ := Directory.openAt_error hwell h
  exact ⟨hintact.tried, fun _ => hintact, fun hrefused => Or.inl (htaken hrefused)⟩

theorem attempted_of_openPath (hwell : v.WellFormed)
    (h : openPath v text options verdicts = (v', .error e)) :
    Attempted verdicts text v v' e := by
  unfold openPath at h
  rcases hdirectory : Directory.openAt v text options.createIfMissing with
    ⟨u, failed | directory⟩
  all_goals rw [hdirectory] at h
  · cases h
    exact attempted_of_openAt hwell hdirectory
  · obtain ⟨w, p, hsecured, rfl, rfl⟩ := Directory.openAt_ok hwell hdirectory
    simp only at h
    rcases hengine : openIn (w.setLocked directory.lock true) directory options verdicts with
      ⟨u, rebuilt, failed | engine⟩
    all_goals rw [hengine] at h
    · cases h
      have hfails := fails_openIn hsecured.wellFormed hsecured.leads_locked hengine
      exact hfails.attempted hsecured
    · simp at h

theorem attempted_of_checkPath (hwell : v.WellFormed)
    (h : checkPath v text verdicts = (v', .error e)) : Attempted verdicts text v v' e := by
  unfold checkPath at h
  rcases hdirectory : Directory.openAt v text false with ⟨u, failed | directory⟩
  all_goals rw [hdirectory] at h
  · cases h
    exact attempted_of_openAt hwell hdirectory
  · obtain ⟨w, p, hsecured, rfl, rfl⟩ := Directory.openAt_ok hwell hdirectory
    simp only at h
    rcases hengine : openChecked (w.setLocked directory.lock true) directory false true
      verdicts with ⟨u, rebuilt, failed | engine⟩
    all_goals rw [hengine] at h
    · cases h
      have hfails := fails_openChecked hsecured.wellFormed hsecured.leads_locked hengine
      exact hfails.attempted hsecured
    · simp at h

/-! ## What is locked then -/

/-- What an opening that succeeds does to the locks: it takes those of its files, which were
free, and no others. -/
structure Takes (v v' : Volume) (engine : Engine) : Prop where
  spares : v.Spares v'
  free : ∀ file ∈ engine.files, v.isLocked file = false
  locked : ∀ file, v'.isLocked file = true ↔ v.isLocked file = true ∨ file ∈ engine.files

theorem takes_of_opened (hwell : v.WellFormed)
    (hdirectory : Directory.openAt v text create = (w, .ok directory)) {again : Bool}
    (hengine : openChecked w directory again checks verdicts = (v', rebuilt, .ok engine)) :
    Takes v v' engine := by
  have hacquired := Directory.Acquired.of_openAt hwell hdirectory
  have hopened := Opened.of_openChecked hacquired.spares.wellFormed hengine
  obtain ⟨u, p, hsecured, _, rfl⟩ := Directory.openAt_ok hwell hdirectory
  obtain ⟨_, _, _, keyspace, hdata, rfl, rfl, _⟩ := openChecked_ok hengine
  obtain ⟨t, data, m, hopen, hfree, _, _, _, rfl, rfl⟩ := openData_ok hdata
  refine ⟨hacquired.spares.trans hopened.spares, fun file hmem => ?_, fun file => ?_⟩
  · obtain ⟨data', hfiles, hdata⟩ := hopened.files_eq
    rw [hfiles] at hmem
    rcases List.mem_cons.mp hmem with rfl | hmem
    · exact hacquired.before
    · rw [List.mem_singleton.mp hmem]
      exact hacquired.spares.not_locked hdata
  · have hleaves := leaves_openFile hacquired.spares.wellFormed hopen
    have hdata : ((t.setContents data (.image m)).files.get? data).isSome = true :=
      (isSome_modify_files t data data _).trans
        (Volume.Opened.of_openFile hacquired.spares.wellFormed hopen).present
    have hlock : (u.files.get? directory.lock).isSome = true :=
      hsecured.intact.files.wellFormed.present (mem_nodes_of_node? hsecured.node)
    rw [isLocked_store, isLocked_setLocked, hdata, isLocked_setContents, hleaves.isLocked,
      isLocked_setLocked, hlock, hsecured.intact.files.isLocked]
    simp only [files, List.mem_cons, List.not_mem_nil, or_false]
    by_cases hdata : file = data
    · simp [hdata]
    · by_cases hlock : file = directory.lock
      · simp [hlock]
      · simp [hdata, hlock]

/-- A database that has been opened has a directory and an engine file in it. -/
theorem openPath_ok (h : openPath v text options verdicts = (v', .ok engine)) :
    ∃ u directory rebuilt, Directory.openAt v text options.createIfMissing = (u, .ok directory) ∧
      openChecked u directory options.createIfMissing options.paranoidChecks verdicts =
        (v', rebuilt, .ok engine) := by
  unfold openPath at h
  rcases hdirectory : Directory.openAt v text options.createIfMissing with
    ⟨u, failed | directory⟩
  all_goals rw [hdirectory] at h
  · simp at h
  · simp only at h
    rcases hengine : openIn u directory options verdicts with ⟨t, rebuilt, failed | opened⟩
    all_goals rw [hengine] at h
    · simp at h
    · cases h
      exact ⟨u, directory, rebuilt, rfl, openIn_ok hengine⟩

theorem checkPath_ok (h : checkPath v text verdicts = (v', .ok ())) :
    ∃ u directory w rebuilt engine, Directory.openAt v text false = (u, .ok directory) ∧
      openChecked u directory false true verdicts = (w, rebuilt, .ok engine) ∧
      v' = engine.release w := by
  unfold checkPath at h
  rcases hdirectory : Directory.openAt v text false with ⟨u, failed | directory⟩
  all_goals rw [hdirectory] at h
  · simp at h
  · simp only at h
    rcases hengine : openChecked u directory false true verdicts with
      ⟨w, rebuilt, failed | engine⟩
    all_goals rw [hengine] at h
    · simp at h
    · cases h
      exact ⟨u, directory, w, rebuilt, engine, rfl, hengine, rfl⟩

theorem takes_of_openPath (hwell : v.WellFormed)
    (h : openPath v text options verdicts = (v', .ok engine)) : Takes v v' engine := by
  obtain ⟨u, directory, rebuilt, hdirectory, hengine⟩ := openPath_ok h
  exact takes_of_opened hwell hdirectory hengine

/-- To release an engine is to let go of its files. -/
theorem isLocked_release (engine : Engine) (v : Volume) (id : FileId) :
    (engine.release v).isLocked id = true ↔ v.isLocked id = true ∧ id ∉ engine.files := by
  unfold release files
  cases engine.home with
  | none => simp
  | some home =>
    simp only [Directory.release, isLocked_setLocked, Bool.and_false, List.mem_cons,
      List.not_mem_nil, or_false, not_or]
    by_cases hlock : id = home.directory.lock
    · simp [hlock]
    · by_cases hdata : id = home.data
      · simp [hdata]
      · simp [hlock, hdata]

/-- What has been opened and released again is locked if it was locked before. -/
theorem Takes.isLocked_release (h : Takes v v' engine) (id : FileId) :
    (engine.release v').isLocked id = v.isLocked id := by
  rw [Bool.eq_iff_iff, Engine.isLocked_release, h.locked]
  refine ⟨fun ⟨hid, hnot⟩ => hid.resolve_right hnot, fun hid => ⟨Or.inl hid, fun hmem => ?_⟩⟩
  rw [h.free id hmem] at hid
  exact Bool.false_ne_true hid

/-- Whether a check comes off or not, the same files are locked as before. -/
theorem isLocked_checkPath (hwell : v.WellFormed) (text : String) (verdicts : Verdicts)
    (id : FileId) : (checkPath v text verdicts).1.isLocked id = v.isLocked id := by
  rcases hcheck : checkPath v text verdicts with ⟨v', failed | _⟩
  · exact (attempted_of_checkPath hwell hcheck).tried.isLocked id
  · obtain ⟨u, directory, w, rebuilt, engine, hdirectory, hengine, rfl⟩ := checkPath_ok hcheck
    exact (takes_of_opened hwell hdirectory hengine).isLocked_release id

end Engine

end OrderedStore
