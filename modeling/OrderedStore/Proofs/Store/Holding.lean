import OrderedStore.Proofs.Destruction
import OrderedStore.Proofs.Store.Housing

/-!
# Opens and repairs that fail

`failed_attempt_leaves_intact` says what an open or a repair that fails leaves behind, whatever
it has found at the path and at whatever point it has failed.  Nothing has become of other
sessions, and the failed call itself holds no lock: unless a session is live on the directory,
nobody is refused there for the sake of a lock.  Names and files are intact if the engine leaves
alone what it refuses; an engine that does not can have done nothing but to its own file.

What becomes of locks needs to be known in general.  In every state that a store can come to
while others do to the files what they like, except locking them (`Arises`), the locked files are
those of the open sessions and no others (`Arises.accounts`).
-/

set_option autoImplicit false

namespace OrderedStore

/-! ## Homes -/

namespace Roster

variable {r r' : Roster} {id : SessionId}

/-- Where the engine of an open session lives, if it lives on the disk. -/
def home? (r : Roster) (id : SessionId) : Option Home := (r.engine? id).bind Engine.home

theorem home?_eq_map_tenant? (r : Roster) (id : SessionId) :
    r.home? id = (r.tenant? id).map Prod.fst := by
  unfold home? tenant?
  cases r.engine? id with
  | none => rfl
  | some engine =>
    simp only [Option.bind_some, Option.map_map]
    cases engine.home <;> rfl

theorem Ages.home? (h : r.Ages r') (id : SessionId) : r'.home? id = r.home? id := by
  rw [home?_eq_map_tenant?, h.tenant, home?_eq_map_tenant?]

theorem home?_openSession (session : Session) (id : SessionId) :
    (r.openSession session).home? id =
      if id = r.sessions.fresh then session.engine.home else r.home? id := by
  unfold home?
  rw [engine?_openSession]
  split <;> rfl

theorem home?_endSession (id id' : SessionId) :
    (r.endSession id).home? id' = if id' = id then none else r.home? id' := by
  unfold home?
  rw [engine?_endSession]
  split <;> rfl

/-- A commit leaves the engine where it is. -/
theorem home?_commit {engine : Engine} (hengine : r.engine? id = some engine) (v : Volume)
    (mutations : List Mutation) (verdicts : Verdicts) (id' : SessionId) :
    (r.modifyEngine id fun _ => (engine.commit v mutations verdicts).2.1).home? id' =
      r.home? id' := by
  unfold home?
  rw [engine?_modifyEngine]
  split
  · rename_i heq
    rw [heq, hengine]
    exact Engine.home_commit v engine mutations verdicts
  · rfl

end Roster

/-! ## Locks -/

namespace Volume

variable {v v' : Volume} {homes homes' : SessionId → Option Home} {id : SessionId}

/-- The locked files are those of the open sessions, and each is the file of one alone. -/
structure Accounts (v : Volume) (homes : SessionId → Option Home) : Prop where
  wellFormed : v.WellFormed
  locked : ∀ {file : FileId}, v.isLocked file = true ↔
    ∃ id home, homes id = some home ∧ file ∈ home.files
  apart : ∀ {id id' : SessionId} {home home' : Home} {file : FileId},
    homes id = some home → homes id' = some home' → file ∈ home.files → file ∈ home'.files →
    id = id'

namespace Accounts

/-- Only locks and homes matter. -/
theorem congr (h : v.Accounts homes) (hwell : v'.WellFormed)
    (hlocked : ∀ file, v'.isLocked file = v.isLocked file) (hhomes : ∀ id, homes' id = homes id) :
    v'.Accounts homes' := by
  rw [funext hhomes]
  exact ⟨hwell, fun {file} => by rw [hlocked]; exact h.locked, h.apart⟩

/-- A session opens, and locks files that nobody held. -/
theorem add (h : v.Accounts homes) (hnone : homes id = none) {home : Home}
    (hwell : v'.WellFormed) (hfree : ∀ file ∈ home.files, v.isLocked file = false)
    (hlocked : ∀ file, v'.isLocked file = true ↔ v.isLocked file = true ∨ file ∈ home.files)
    (hhomes : ∀ id', homes' id' = if id' = id then some home else homes id') :
    v'.Accounts homes' := by
  have hcases : ∀ {id' : SessionId} {home' : Home}, homes' id' = some home' →
      id' = id ∧ home' = home ∨ homes id' = some home' := by
    intro id' home' hsome
    rw [hhomes] at hsome
    split at hsome
    · rename_i heq
      exact Or.inl ⟨heq, (Option.some.inj hsome).symm⟩
    · exact Or.inr hsome
  have hcross : ∀ {id' : SessionId} {home' : Home} {file : FileId},
      homes id' = some home' → file ∈ home'.files → file ∉ home.files := by
    intro id' home' file hsome hmem hmem'
    have hheld := h.locked.mpr ⟨id', home', hsome, hmem⟩
    rw [hfree file hmem'] at hheld
    exact Bool.false_ne_true hheld
  refine ⟨hwell, fun {file} => ?_, ?_⟩
  · rw [hlocked, h.locked]
    constructor
    · rintro (⟨id', home', hsome, hmem⟩ | hmem)
      · have hne : id' ≠ id := by
          rintro rfl
          rw [hnone] at hsome
          simp at hsome
        exact ⟨id', home', by rw [hhomes, if_neg hne, hsome], hmem⟩
      · exact ⟨id, home, by rw [hhomes, if_pos rfl], hmem⟩
    · rintro ⟨id', home', hsome, hmem⟩
      rcases hcases hsome with ⟨_, rfl⟩ | hold
      · exact Or.inr hmem
      · exact Or.inl ⟨id', home', hold, hmem⟩
  · intro id₁ id₂ home₁ home₂ file h₁ h₂ hmem₁ hmem₂
    rcases hcases h₁ with ⟨heq₁, rfl⟩ | hold₁ <;> rcases hcases h₂ with ⟨heq₂, hhome₂⟩ | hold₂
    · rw [heq₁, heq₂]
    · exact absurd hmem₁ (hcross hold₂ hmem₂)
    · exact absurd (hhome₂ ▸ hmem₂) (hcross hold₁ hmem₁)
    · exact h.apart hold₁ hold₂ hmem₁ hmem₂

/-- A session ends, and lets go of its files. -/
theorem release (h : v.Accounts homes) {engine : Engine} (hid : homes id = engine.home)
    (hhomes : ∀ id', homes' id' = if id' = id then none else homes id') :
    (engine.release v).Accounts homes' := by
  have hwell : (engine.release v).WellFormed := by
    unfold Engine.release
    split
    · exact h.wellFormed
    · exact (h.wellFormed.setLocked _ _).setLocked _ _
  have hother : ∀ {id' : SessionId} {home' : Home}, homes' id' = some home' →
      id' ≠ id ∧ homes id' = some home' := by
    intro id' home' hsome
    rw [hhomes] at hsome
    split at hsome
    · simp at hsome
    · rename_i hne
      exact ⟨hne, hsome⟩
  have hmine : ∀ {file : FileId}, file ∈ engine.files →
      ∃ home, homes id = some home ∧ file ∈ home.files := by
    intro file hmem
    cases hhome : engine.home with
    | none => simp [Engine.files, hhome] at hmem
    | some home => exact ⟨home, hid.trans hhome, Engine.files_eq hhome ▸ hmem⟩
  refine ⟨hwell, fun {file} => ?_, fun h₁ h₂ => h.apart (hother h₁).2 (hother h₂).2⟩
  rw [Engine.isLocked_release, h.locked]
  constructor
  · rintro ⟨⟨id', home', hsome, hmem⟩, hnot⟩
    have hne : id' ≠ id := by
      rintro rfl
      exact hnot (Engine.files_eq (hid.symm.trans hsome) ▸ hmem)
    exact ⟨id', home', by rw [hhomes, if_neg hne, hsome], hmem⟩
  · rintro ⟨id', home', hsome, hmem⟩
    obtain ⟨hne, hold⟩ := hother hsome
    refine ⟨⟨id', home', hold, hmem⟩, fun hmem' => hne ?_⟩
    obtain ⟨home, hhome, hown⟩ := hmine hmem'
    exact h.apart hold hhome hmem hown

end Accounts

end Volume

/-! ## States -/

namespace Store

open Volume

variable {s s' : Store} {path : String}

theorem accounts_openAt (h : s.volume.Accounts s.roster.home?) (hcoherent : s.roster.Coherent)
    (path : String) (options : Options) :
    (s.openAt path options).1.volume.Accounts (s.openAt path options).1.roster.home? := by
  cases hopen : Engine.openPath s.volume path options s.verdicts with
  | mk v outcome =>
    cases outcome with
    | error e =>
      obtain ⟨s', heq, rfl, hroster⟩ := openAt_of_error hopen
      have htried := (Engine.attempted_of_openPath h.wellFormed hopen).tried
      rw [heq, hroster]
      exact h.congr htried.wellFormed htried.isLocked
        (Roster.ages_skipSession s.roster).home?
    | ok engine =>
      obtain ⟨s', logger, heq, rfl, hroster⟩ := openAt_of_ok hopen
      obtain ⟨_, lock, data, _, hhome, _⟩ := Engine.home_of_openPath hopen
      have hfiles := Engine.files_eq hhome
      have htakes := Engine.takes_of_openPath h.wellFormed hopen
      have hnone : s.roster.home? s.sessions.fresh = none := by
        have hclosed := hcoherent.not_isOpen_fresh
        rw [Roster.isOpen_eq_isSome_engine?, Option.isSome_eq_false_iff,
          Option.isNone_iff_eq_none] at hclosed
        rw [Roster.home?, show s.sessions.fresh = s.roster.sessions.fresh from rfl, hclosed]
        rfl
      rw [heq, hroster]
      refine h.add hnone htakes.spares.wellFormed
        (fun file hmem => htakes.free file (hfiles ▸ hmem)) (fun file => ?_) fun id => ?_
      · rw [← hfiles]
        exact htakes.locked file
      · rw [Roster.home?_openSession, hhome]
        rfl

theorem accounts_commit (h : s.volume.Accounts s.roster.home?) (id : SessionId) (write : Write) :
    (s.commit id write).1.volume.Accounts (s.commit id write).1.roster.home? := by
  cases hsession : s.sessions.get? id with
  | none =>
    rw [commit_of_closed hsession]
    exact h
  | some session =>
    obtain ⟨hroster, hvolume, _⟩ := commit_of_open hsession write
    have hengine : s.roster.engine? id = some session.engine :=
      Roster.engine?_of_session hsession
    have hhomes := Roster.home?_commit hengine s.volume write.mutations s.verdicts
    rw [hvolume, hroster]
    rcases Engine.volume_commit s.volume session.engine write.mutations s.verdicts with
      heq | ⟨file, c, heq⟩
    · rw [heq]
      exact h.congr h.wellFormed (fun _ => rfl) hhomes
    · rw [heq]
      exact h.congr (h.wellFormed.setContents file c)
        (fun other => isLocked_setContents s.volume file other c) hhomes

/-- Every action keeps the account of locks right. -/
theorem accounts_perform (hcoherent : s.roster.Coherent) (h : s.volume.Accounts s.roster.home?)
    (action : Action) :
    (s.perform action).1.volume.Accounts (s.perform action).1.roster.home? := by
  cases deed hcoherent action with
  | opens path options => exact accounts_openAt h hcoherent path options
  | ends id _ hroster hvolume =>
    rw [hvolume, hroster]
    cases hsession : s.sessions.get? id with
    | none =>
      refine h.congr h.wellFormed (fun _ => rfl) fun id' => ?_
      rw [Roster.home?_endSession]
      split
      · rename_i heq
        rw [heq, Roster.home?, Roster.engine?,
          show s.roster.sessions.get? id = none from hsession]
        rfl
      · rfl
    | some session =>
      refine h.release ?_ (Roster.home?_endSession id)
      rw [Roster.home?, Roster.engine?_of_session (r := s.roster) hsession]
      rfl
  | commits id write _ heq =>
    rw [heq]
    exact accounts_commit h id write
  | destroys path =>
    obtain ⟨hroster, hvolume, _⟩ := destroy_spec s path
    have hleaves := Directory.leaves_destroy h.wellFormed path
    show (s.destroy path).1.volume.Accounts (s.destroy path).1.roster.home?
    rw [hroster, hvolume]
    exact h.congr hleaves.wellFormed hleaves.isLocked fun _ => rfl
  | repairs path =>
    obtain ⟨hroster, _, hspares⟩ := repair_spec s path
    show (s.repair path).1.volume.Accounts (s.repair path).1.roster.home?
    rw [hroster]
    refine h.congr (hspares h.wellFormed).wellFormed (fun file => ?_)
      (Roster.ages_skipSession s.roster).home?
    rw [(repair_eq s path).1]
    exact Engine.isLocked_checkPath h.wellFormed path s.verdicts file
  | looks _ hages hvolume =>
    rw [hvolume]
    exact h.congr h.wellFormed (fun _ => rfl) hages.home?

/-- The states that a store can come to.  At first no file is locked.  Then anything may be
done to the store, and others may write, make, move and remove files as they like: all that
they must not touch are the locks. -/
inductive Arises : Store → Prop where
  | start {v : Volume} (wellFormed : v.WellFormed) (free : ∀ file, v.isLocked file = false) :
    Arises (ofVolume v)
  | act {s : Store} (arises : Arises s) (action : Action) : Arises (s.perform action).1
  | meddle {s : Store} {v : Volume} (arises : Arises s) (wellFormed : v.WellFormed)
    (locks : ∀ file, v.isLocked file = s.volume.isLocked file) : Arises { s with volume := v }

theorem Arises.coherent (h : s.Arises) : s.roster.Coherent := by
  induction h with
  | start _ _ => exact coherent_ofVolume _
  | act _ action ih => exact coherent_perform ih action
  | meddle _ _ _ ih => exact ih

theorem Arises.accounts (h : s.Arises) : s.volume.Accounts s.roster.home? := by
  induction h with
  | @start v wellFormed free =>
    have hnone : ∀ id, (ofVolume v).roster.home? id = none := fun _ => rfl
    refine ⟨wellFormed, fun {file} => ?_, ?_⟩
    · show v.isLocked file = true ↔ _
      simp [free, hnone]
    · simp [hnone]
  | act harises action ih => exact accounts_perform harises.coherent ih action
  | meddle _ wellFormed locks ih => exact ih.congr wellFormed locks fun _ => rfl

/-! ## Attempts -/

/-- Is a session live on the directory of a path, so that one of its files is the lock file? -/
def LiveAt (s : Store) (path : String) : Prop :=
  ∃ id home, s.roster.home? id = some home ∧
    ∃ file ∈ home.files, s.volume.node? (s.volume.place path ++ ["LOCK"]) = some (.file file)

/-- A lock file that is held is held by a session that is live there. -/
theorem Arises.liveAt (h : s.Arises) (htaken : s.volume.Taken path) : s.LiveAt path := by
  obtain ⟨lock, hnode, hlocked⟩ := htaken
  obtain ⟨id, home, hhome, hmem⟩ := h.accounts.locked.mp hlocked
  exact ⟨id, home, hhome, lock, hmem, hnode⟩

/-- What is left of a store by an attempt at the database at a path that has failed. -/
structure Untouched (s : Store) (path : String) (s' : Store) : Prop where
  /-- Every name and every file is as it was.  New are at most directories on the way to the
  path, and an empty lock file.  That is up to the engine as far as its own file goes. -/
  intact : s.verdicts.LeavesRefused → Intact path s.volume s'.volume
  /-- In any case nothing else than the engine file has changed. -/
  tried : Tried path s.volume s'.volume
  /-- The same files are locked as before. -/
  locks : ∀ file, s'.volume.isLocked file = s.volume.isLocked file
  /-- Of the sessions and their children only the next identity has changed. -/
  roster : s'.roster = s.roster.skipSession
  /-- An open session has its files as before, and they are locked. -/
  sessions : ∀ {id : SessionId} {home : Home}, s.roster.home? id = some home →
    s'.roster.home? id = some home ∧ ∀ file ∈ home.files, s'.volume.isLocked file = true ∧
      s'.volume.contents file = s.volume.contents file
  /-- Unless a session is live on the directory, or the engine puts it in the same words, no
  further attempt is refused for a lock. -/
  retry : ¬ s.LiveAt path → ¬ s.verdicts.Says (Directory.refusal path) →
    (∀ options, (s'.openAt path options).2 ≠ .error (Directory.refusal path)) ∧
      (s'.repair path).2 ≠ .error (Directory.refusal path)

theorem Arises.untouched (h : s.Arises) {e : Error}
    (hattempted : Engine.Attempted s.verdicts path s.volume s'.volume e)
    (hroster : s'.roster = s.roster.skipSession) (hverdicts : s'.verdicts = s.verdicts) :
    s.Untouched path s' := by
  have htried := hattempted.tried
  have hwell := htried.wellFormed
  refine ⟨hattempted.intact, htried, htried.isLocked, hroster, fun {id home} hhome =>
    ⟨?_, fun file hmem => ?_⟩, fun hidle hquiet => ?_⟩
  · rw [hroster, (Roster.ages_skipSession s.roster).home?, hhome]
  · have hheld : s.volume.isLocked file = true := h.accounts.locked.mpr ⟨id, home, hhome, hmem⟩
    exact ⟨(htried.isLocked file).trans hheld, htried.contents_of_held hheld⟩
  · have hfree : ¬ (s'.volume.Taken path ∨ s'.verdicts.Says (Directory.refusal path)) := by
      rintro (htaken | hsays)
      · exact hidle (h.liveAt (htried.taken htaken))
      · exact hquiet (hverdicts ▸ hsays)
    refine ⟨fun options hrefused => ?_, fun hrefused => ?_⟩
    · rcases hopen : Engine.openPath s'.volume path options s'.verdicts with ⟨v, e | engine⟩
      · obtain ⟨t, heq, _⟩ := openAt_of_error hopen
        rw [heq] at hrefused
        obtain rfl := Except.error.inj hrefused
        exact hfree ((Engine.attempted_of_openPath hwell hopen).words rfl)
      · obtain ⟨t, _, heq, _⟩ := openAt_of_ok hopen
        rw [heq] at hrefused
        simp at hrefused
    · rw [(repair_eq s' path).2] at hrefused
      exact hfree ((Engine.attempted_of_checkPath hwell (Prod.ext rfl hrefused)).words rfl)

end Store

end OrderedStore
