import OrderedStore.Proofs.Store.Atomic
import OrderedStore.Proofs.Store.Shelf

/-!
# The life of a database directory

What a store that matches a shelf does at the path of it: who can open the database and what is
seen then, that everybody else is turned away while it is open, and when its lock is free
(`LifeCycle`).  All of it holds after every run of actions at one path where nothing was at
first (`directory_life_cycle`), as long as the engine takes up again what it has written; writes
it may refuse as it likes.
-/

set_option autoImplicit false

namespace OrderedStore.Store

open Volume

variable {s : Store} {id : SessionId} {text : String} {shelf : Shelf}

/-- The life of the database at a path, of which the shelf has been kept so far. -/
structure LifeCycle (s : Store) (text : String) (shelf : Shelf) : Prop where
  /-- One session at most has the database open. -/
  live : ∀ id, s.path? id = some text ↔ shelf.live = some id
  holds : ∀ id, s.path? id = some text → s.roster.committed? id = shelf.kept
  there : s.volume.isThere (Directory.dataPath text) = shelf.kept.isSome
  opens : ∀ options, (∃ id, (s.openAt text options).2 = .ok id) ↔
    (∀ id, s.path? id ≠ some text) ∧
      (s.volume.isThere (Directory.dataPath text) = true ∧ options.errorIfExists = false ∨
        s.volume.isThere (Directory.dataPath text) = false ∧ options.createIfMissing = true)
  /-- Whoever opens the database sees what is kept. -/
  sees : ∀ options s' id, s.openAt text options = (s', .ok id) →
    s'.path? id = some text ∧ s'.roster.committed? id = some (shelf.kept.getD .empty) ∧
      ∀ key, (s'.get id none key).2 = .ok ((shelf.kept.getD .empty).get? key)
  /-- However often others try to get at an open database, they fail, and nothing happens to
  the files, locks included, and to the sessions. -/
  repels : ∀ id, s.path? id = some text → ∀ attempts : List Action,
    (∀ action ∈ attempts, action.path? = some text) →
      (∀ answer ∈ s.answers attempts, ∃ e, answer.error? = some e ∧ e.kind = .io) ∧
        (s.run attempts).volume = s.volume ∧
        ∀ id, (s.run attempts).sessions.get? id = s.sessions.get? id
  lock : Directory.isHeld s.volume text = true ↔ ∃ id, s.path? id = some text
  closed : ∀ id, s.path? id = some text → Directory.isHeld (s.close id).volume text = false
  failed : (∀ id, s.path? id ≠ some text) → ∀ action : Action,
    action.path?.all (· = text) = true → (s.perform action).2.error?.isSome = true →
      Directory.isHeld (s.perform action).1.volume text = false

namespace Matches

/-! ## Who has the database -/

theorem path?_eq_some_iff (h : s.Matches text shelf) :
    s.path? id = some text ↔ shelf.live = some id := by
  constructor
  · intro hpath
    obtain ⟨session, hsession, hhome⟩ := Option.bind_eq_some_iff.mp hpath
    obtain ⟨home, hhome, _⟩ := Option.map_eq_some_iff.mp hhome
    refine h.tenant (Roster.tenant?_eq_some_iff.mpr ⟨_, ?_, hhome, rfl⟩)
    exact Roster.engine?_of_session hsession
  · intro hlive
    obtain ⟨home, m, p, _, hoccupies⟩ := h.occupies hlive
    obtain ⟨engine, hengine, hhome, _⟩ := Roster.tenant?_eq_some_iff.mp hoccupies.tenant
    obtain ⟨session, hsession, rfl⟩ := Option.map_eq_some_iff.mp hengine
    rw [Store.path?, show s.sessions.get? id = some session from hsession, Option.bind_some,
      Engine.path?, hhome, Option.map_some, hoccupies.path]

theorem not_live (h : s.Matches text shelf) (hnone : ∀ id, s.path? id ≠ some text) :
    shelf.live = none := by
  cases hlive : shelf.live with
  | none => rfl
  | some id => exact absurd (h.path?_eq_some_iff.mpr hlive) (hnone id)

theorem committed? (h : s.Matches text shelf) (hlive : shelf.live = some id) :
    s.roster.committed? id = shelf.kept ∧ shelf.kept.isSome = true := by
  obtain ⟨home, m, p, hkept, hoccupies⟩ := h.occupies hlive
  obtain ⟨engine, hengine, _, rfl⟩ := Roster.tenant?_eq_some_iff.mp hoccupies.tenant
  rw [hkept, Roster.committed?, hengine]
  exact ⟨rfl, rfl⟩

theorem isThere_data (h : s.Matches text shelf) :
    s.volume.isThere (Directory.dataPath text) = shelf.kept.isSome := by
  cases hlive : shelf.live with
  | none => exact (h.rests hlive).isThere_data
  | some id =>
    obtain ⟨home, m, p, hkept, _, rfl, hhouses, hleads⟩ := h.occupies hlive
    rw [Directory.dataPath, isThere_join regular_data hhouses.fits hleads, hhouses.data, hkept]
    rfl

theorem isHeld (h : s.Matches text shelf) :
    Directory.isHeld s.volume text = shelf.live.isSome := by
  cases hlive : shelf.live with
  | none => exact (h.rests hlive).not_isHeld
  | some id =>
    obtain ⟨home, m, p, _, hoccupies⟩ := h.occupies hlive
    obtain ⟨c, hc⟩ := h.tells
    obtain ⟨hheld, _⟩ := hoccupies.sits hc
    obtain ⟨_, rfl, hhouses, hleads⟩ := hoccupies
    unfold Directory.isHeld
    rw [Directory.lockPath, find_join regular_lock (checkText_lockPath hhouses.fits) hleads,
      hhouses.lock]
    exact hheld

/-! ## Getting at it -/

theorem repels_run (h : s.Matches text shelf) (hlive : shelf.live = some id)
    {attempts : List Action} (hat : ∀ action ∈ attempts, action.path? = some text) :
    (∀ answer ∈ s.answers attempts, ∃ e, answer.error? = some e ∧ e.kind = .io) ∧
      (s.run attempts).volume = s.volume ∧
      ∀ id, (s.run attempts).sessions.get? id = s.sessions.get? id := by
  induction attempts generalizing s with
  | nil => exact ⟨fun answer hmem => absurd hmem List.not_mem_nil, rfl, fun _ => rfl⟩
  | cons action rest ih =>
    obtain ⟨hrepels, hagain⟩ := h.repels hlive (hat action List.mem_cons_self)
    obtain ⟨hanswers, hvolume, hsessions⟩ :=
      ih hagain fun other hmem => hat other (List.mem_cons_of_mem _ hmem)
    refine ⟨fun answer hmem => ?_, hvolume.trans hrepels.volume,
      fun id => (hsessions id).trans (hrepels.session id)⟩
    rcases List.mem_cons.mp hmem with rfl | hmem
    · exact hrepels.fails
    · exact hanswers answer hmem

theorem not_live_of_openAt (h : s.Matches text shelf) {options : Options}
    (hopen : (s.openAt text options).2 = .ok id) : shelf.live = none := by
  cases hlive : shelf.live with
  | none => rfl
  | some holder =>
    have hat : (Action.openAt text options).path? = some text := rfl
    obtain ⟨e, herror, _⟩ := (h.repels hlive hat).1.fails
    simp only [Store.perform, hopen] at herror
    simp [Answer.error?] at herror

theorem openAt_isOk_iff (h : s.Matches text shelf) (hreopens : s.verdicts.Reopens)
    (options : Options) :
    (∃ id, (s.openAt text options).2 = .ok id) ↔
      shelf.live = none ∧ options.admits shelf.kept.isSome = true := by
  constructor
  · rintro ⟨id, hopen⟩
    have hlive := h.not_live_of_openAt hopen
    refine ⟨hlive, ?_⟩
    cases hadmits : options.admits shelf.kept.isSome with
    | true => rfl
    | false =>
      obtain ⟨u, e, hpath, _⟩ := (h.rests hlive).openPath_of_refuses hadmits s.verdicts
      obtain ⟨s', heq, _⟩ := openAt_of_error hpath
      rw [heq] at hopen
      simp at hopen
  · rintro ⟨hlive, hadmits⟩
    obtain ⟨u, engine, hpath, _⟩ := (h.rests hlive).openPath_of_admits hadmits hreopens
    obtain ⟨s', logger, heq, _⟩ := openAt_of_ok hpath
    exact ⟨_, by rw [heq]⟩

/-- Whoever opens the database has what is kept. -/
theorem sees (h : s.Matches text shelf) (hreopens : s.verdicts.Reopens) {options : Options}
    {s' : Store} (hopen : s.openAt text options = (s', .ok id)) :
    s'.path? id = some text ∧ s'.roster.committed? id = some (shelf.kept.getD .empty) ∧
      ∀ key, (s'.get id none key).2 = .ok ((shelf.kept.getD .empty).get? key) := by
  have hat : (Action.openAt text options).path? = some text := rfl
  have hmatches := h.perform_at hreopens hat
  simp only [Store.perform] at hmatches
  rw [hopen] at hmatches
  have hcommitted : s'.roster.committed? id = _ := (hmatches.committed? rfl).1
  refine ⟨hmatches.path?_eq_some_iff.mpr rfl, hcommitted, fun key => ?_⟩
  obtain ⟨c', hc'⟩ := hmatches.tells
  have hm := (hc'.committed id).symm.trans hcommitted
  refine hc'.get_eq hm ?_ key
  rw [Chronicle.viewFor, hm]
  rfl

/-! ## The lock -/

theorem isHeld_of_failed (h : s.Matches text shelf) (hreopens : s.verdicts.Reopens)
    (hlive : shelf.live = none) {action : Action} (hat : action.path?.all (· = text) = true)
    (herror : (s.perform action).2.error?.isSome = true) :
    Directory.isHeld (s.perform action).1.volume text = false := by
  have hsame : shelf.note action (s.perform action).2 = shelf := by
    cases hends : action.ends? with
    | none => exact Shelf.note_of_error hends herror
    | some id =>
      rw [Shelf.note_of_ends hends, Shelf.leave, if_neg]
      rw [hlive]
      simp
  have hmatches := h.perform hreopens hat
  rw [hsame] at hmatches
  rw [hmatches.isHeld, hlive]
  rfl

theorem isHeld_close (h : s.Matches text shelf) (hreopens : s.verdicts.Reopens)
    (hlive : shelf.live = some id) :
    Directory.isHeld (s.close id).volume text = false := by
  have hat : (Action.close id).path?.all (· = text) = true := rfl
  have hmatches := h.perform hreopens hat
  rw [Shelf.note_of_ends rfl, Shelf.leave, if_pos hlive] at hmatches
  exact hmatches.isHeld

theorem lifeCycle (h : s.Matches text shelf) (hreopens : s.verdicts.Reopens) :
    s.LifeCycle text shelf where
  live _ := h.path?_eq_some_iff
  holds _ hpath := (h.committed? (h.path?_eq_some_iff.mp hpath)).1
  there := h.isThere_data
  opens options := by
    have hadmits : options.admits shelf.kept.isSome = true ↔
        shelf.kept.isSome = true ∧ options.errorIfExists = false ∨
          shelf.kept.isSome = false ∧ options.createIfMissing = true := by
      cases shelf.kept <;> simp [Options.admits]
    rw [h.openAt_isOk_iff hreopens, hadmits, h.isThere_data]
    refine and_congr_left fun _ => ⟨fun hlive id hpath => ?_, h.not_live⟩
    rw [h.path?_eq_some_iff.mp hpath] at hlive
    simp at hlive
  sees _ _ _ hopen := h.sees hreopens hopen
  repels _ hpath _ hat := h.repels_run (h.path?_eq_some_iff.mp hpath) hat
  lock := by
    rw [h.isHeld, Option.isSome_iff_exists]
    exact exists_congr fun _ => h.path?_eq_some_iff.symm
  closed _ hpath := h.isHeld_close hreopens (h.path?_eq_some_iff.mp hpath)
  failed hnone _ hat herror := h.isHeld_of_failed hreopens (h.not_live hnone) hat herror

end Matches

/-- The life of a database at a path where nothing was at first, with engines that reopen what
has been written. -/
theorem directory_life_cycle {v : Volume} (h : v.WellFormed) (hcreatable : v.Creatable text)
    {actions : List Action} (hat : ∀ action ∈ actions, action.path?.all (· = text) = true)
    (hsway : ∀ verdicts, .sway verdicts ∈ actions → verdicts.Reopens) :
    ((ofVolume v).run actions).LifeCycle text ((ofVolume v).shelve .vacant actions) := by
  obtain ⟨hmatches, hreopens⟩ :=
    (matches_ofVolume h hcreatable).run Verdicts.reopens_granting hat hsway
  exact hmatches.lifeCycle hreopens

/-- An engine that does not write long values takes up its files all the same. -/
theorem reopens_limited (limit : Nat) : (limited limit).Reopens where
  adopts _ := rfl
  checks _ := rfl
  clean _ := rfl
  setsUp _ := by
    refine Verdicts.grants_of_forall fun applied => ?_
    rw [Transaction.forall_mem_steps]
    exact ⟨rfl, rfl, fun mutation hmem => absurd hmem List.not_mem_nil, rfl⟩

/-- The theorem on a database that is opened, written, once more in vain, attacked, closed,
repaired, opened again in vain and destroyed. -/
theorem directory_life_cycle_on_disk :
    Volume.empty.WellFormed ∧ Volume.empty.Creatable "db" ∧ (limited 1).Reopens ∧
      ((ofVolume .empty).run
        [.openAt "db" {}, .put ⟨0⟩ [1] [2] false, .sway (limited 1), .put ⟨0⟩ [1] [2, 3] false,
          .destroy "db", .close ⟨0⟩, .repair "db", .openAt "db" { errorIfExists := true },
          .destroy "db"]).LifeCycle "db"
        ((ofVolume .empty).shelve .vacant
          [.openAt "db" {}, .put ⟨0⟩ [1] [2] false, .sway (limited 1), .put ⟨0⟩ [1] [2, 3] false,
            .destroy "db", .close ⟨0⟩, .repair "db", .openAt "db" { errorIfExists := true },
            .destroy "db"]) := by
  have hcreatable : Volume.empty.Creatable "db" :=
    creatable_of_grounded grounded_empty (by decide) (by decide +kernel) (by decide +kernel)
      (by decide +kernel) (by decide +kernel)
  refine ⟨wellFormed_empty, hcreatable, reopens_limited 1,
    directory_life_cycle wellFormed_empty hcreatable (by simp [Action.path?])
      fun verdicts hmem => ?_⟩
  obtain rfl : verdicts = limited 1 := by simpa using hmem
  exact reopens_limited 1

end OrderedStore.Store
