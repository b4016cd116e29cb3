import OrderedStore.Proofs.Rest
import OrderedStore.Proofs.Store.Housing
import OrderedStore.Proofs.Store.Isolation

/-!
# What is kept at one path

A `Shelf` is what the users of one database on the disk know of it: who has it open, and what
it holds.  It is kept from the actions on a store and their answers alone.  A store matches
a shelf if the session that has the database open is the only tenant, with the map of the
shelf, and if the database is at rest with that map while nobody has it open.

Every action at the path of the database, and every action that has to do with no path, keeps
that up (`Matches.perform`), so a whole run does (`Matches.run`).  The engine may refuse to
write, but it has to reopen what has been written (`Verdicts.Reopens`).
-/

set_option autoImplicit false

namespace OrderedStore

/-- One database on the disk, as its users know it. -/
structure Shelf where
  /-- The session that has it open. -/
  live : Option SessionId
  /-- What it holds, if it has been made and not been destroyed since. -/
  kept : Option Keyspace

namespace Shelf

/-- There is no database yet. -/
def vacant : Shelf := ⟨none, none⟩

/-- Writes down that a session has changed its map. -/
def change (shelf : Shelf) (id : SessionId) (f : Keyspace → Keyspace) : Shelf :=
  if shelf.live = some id then { shelf with kept := shelf.kept.map f } else shelf

/-- Writes down that a session has ended. -/
def leave (shelf : Shelf) (id : SessionId) : Shelf :=
  if shelf.live = some id then { shelf with live := none } else shelf

/-- Keeps a shelf by an action and its answer.  What has been made or opened holds what was
kept, and nothing at first. -/
def note (shelf : Shelf) : Store.Action → Store.Answer → Shelf
  | .openAt _ _, .opened (.ok id) => ⟨some id, some (shelf.kept.getD .empty)⟩
  | .close id, _ => shelf.leave id
  | .discard id, _ => shelf.leave id
  | .put id key value _, .done (.ok ()) => shelf.change id fun m => m.insert key value
  | .putOption id key (some value) _, .done (.ok ()) =>
    shelf.change id fun m => m.insert key value
  | .putOption id key none _, .done (.ok ()) => shelf.change id fun m => m.erase key
  | .delete id key _, .done (.ok ()) => shelf.change id fun m => m.erase key
  | .write id batch _, .done (.ok ()) => shelf.change id fun m => m.applyAll batch.operations
  | .destroy _, .done (.ok ()) => { shelf with kept := none }
  | _, _ => shelf

variable {shelf : Shelf} {action : Store.Action} {id : SessionId}

theorem note_of_ends (h : action.ends? = some id) (answer : Store.Answer) :
    shelf.note action answer = shelf.leave id := by
  cases action with
  | close id' =>
    obtain rfl := Option.some.inj h
    rfl
  | discard id' =>
    obtain rfl := Option.some.inj h
    rfl
  | _ => simp [Store.Action.ends?] at h

theorem note_of_writes (shelf : Shelf) {mutations : List Mutation}
    (h : action.writes? = some (id, mutations)) :
    shelf.note action (.done (.ok ())) = shelf.change id (fun m => m.applyAll mutations) ∧
      ∀ e, shelf.note action (.done (.error e)) = shelf := by
  cases action with
  | put id' key value sync =>
    obtain ⟨rfl, rfl⟩ := Prod.mk.inj (Option.some.inj h)
    exact ⟨rfl, fun _ => rfl⟩
  | putOption id' key value sync =>
    obtain ⟨rfl, rfl⟩ := Prod.mk.inj (Option.some.inj h)
    cases value <;> exact ⟨rfl, fun _ => rfl⟩
  | delete id' key sync =>
    obtain ⟨rfl, rfl⟩ := Prod.mk.inj (Option.some.inj h)
    exact ⟨rfl, fun _ => rfl⟩
  | write id' batch sync =>
    obtain ⟨rfl, rfl⟩ := Prod.mk.inj (Option.some.inj h)
    exact ⟨rfl, fun _ => rfl⟩
  | _ => simp [Store.Action.writes?] at h

/-- Nothing is written down of what fails. -/
theorem note_of_error {answer : Store.Answer} (hends : action.ends? = none)
    (h : answer.error?.isSome = true) : shelf.note action answer = shelf := by
  unfold note
  split
  · simp [Store.Answer.error?] at h
  · simp [Store.Action.ends?] at hends
  · simp [Store.Action.ends?] at hends
  · simp [Store.Answer.error?] at h
  · simp [Store.Answer.error?] at h
  · simp [Store.Answer.error?] at h
  · simp [Store.Answer.error?] at h
  · simp [Store.Answer.error?] at h
  · simp [Store.Answer.error?] at h
  · rfl

theorem note_of_looks (h : action.Looks) (answer : Store.Answer) :
    shelf.note action answer = shelf := by
  obtain ⟨hpath, hends, hwrites⟩ := h
  cases action with
  | openAt path options => simp [Store.Action.path?] at hpath
  | destroy path => simp [Store.Action.path?] at hpath
  | repair path => simp [Store.Action.path?] at hpath
  | close id => simp [Store.Action.ends?] at hends
  | discard id => simp [Store.Action.ends?] at hends
  | put id key value sync => simp [Store.Action.writes?] at hwrites
  | putOption id key value sync => simp [Store.Action.writes?] at hwrites
  | delete id key sync => simp [Store.Action.writes?] at hwrites
  | write id batch sync => simp [Store.Action.writes?] at hwrites
  | _ => rfl

end Shelf

namespace Store

open Volume

variable {s s' : Store} {id : SessionId} {text : String} {home : Home} {m : Keyspace} {p : Path}
  {shelf : Shelf} {c : Chronicle}

/-! ## A database that is open -/

/-- What a commit does to files and tenants where nobody else writes to the files, if the engine
grants it. -/
theorem commit_of_grants (htells : c.Tells s.volume s.roster) {session : Session}
    (hsession : s.sessions.get? id = some session) {write : Write}
    (hgrants : s.verdicts.Grants .write write.mutations) :
    (s.commit id write).2 = .ok () ∧
      (s.commit id write).1.volume = session.engine.home.elim s.volume (fun home =>
        s.volume.setContents home.data (.image (session.engine.latest.applyAll write.mutations))) ∧
      ∀ id', (s.commit id write).1.roster.tenant? id' =
        if id' = id then
          session.engine.home.map fun home => (home, session.engine.latest.applyAll write.mutations)
        else s.roster.tenant? id' := by
  have hengine := Roster.engine?_of_session (r := s.roster) hsession
  obtain ⟨hroster, hvolume, houtcome⟩ := commit_of_open hsession write
  have hgranted := Engine.commit_of_grants (htells.serves.sits hengine).access hgrants
  rw [hgranted] at hroster hvolume houtcome
  refine ⟨houtcome, ?_, fun id' => ?_⟩
  · rw [hvolume]
    cases hhome : session.engine.home with
    | none => simp only [Engine.store, hhome, Option.elim_none]
    | some home => simp only [Engine.store, hhome, Option.elim_some]
  · rw [hroster, Roster.tenant?_modifyEngine, hengine]
    rfl

/-- A commit that the engine refuses does nothing. -/
theorem commit_of_refuses (htells : c.Tells s.volume s.roster) {session : Session}
    (hsession : s.sessions.get? id = some session) {write : Write} {fault : Fault}
    (hrefuses : s.verdicts.Refuses .write write.mutations fault) :
    (∃ e, (s.commit id write).2 = .error e) ∧ (s.commit id write).1.volume = s.volume ∧
      ∀ id', (s.commit id write).1.roster.tenant? id' = s.roster.tenant? id' := by
  have hengine := Roster.engine?_of_session (r := s.roster) hsession
  obtain ⟨hroster, hvolume, houtcome⟩ := commit_of_open hsession write
  rcases Engine.commit_cases s.volume session.engine write.mutations s.verdicts with
    ⟨e, haccess, _⟩ | ⟨_, hgrants, _⟩ | ⟨refused, _, _, heq⟩
  · rw [(htells.serves.sits hengine).access] at haccess
    simp at haccess
  · exact absurd hrefuses (hgrants.not_refuses fault)
  · rw [heq] at hroster hvolume houtcome
    refine ⟨⟨_, houtcome⟩, hvolume, fun id' => ?_⟩
    rw [hroster, Roster.tenant?_modifyEngine, hengine]
    split
    · rename_i heq'
      rw [heq', Roster.tenant?, hengine]
      rfl
    · rfl

/-- A session has the database at a path open, and the path leads to its files. -/
structure Occupies (s : Store) (id : SessionId) (text : String) (home : Home) (m : Keyspace)
    (p : Path) : Prop where
  tenant : s.roster.tenant? id = some (home, m)
  path : home.directory.text = text
  houses : s.volume.Houses home p
  leads : s.volume.Leads text p

/-- An action fails on the files, and does nothing to files and sessions. -/
structure Repels (s : Store) (action : Action) : Prop where
  fails : ∃ e, (s.perform action).2.error? = some e ∧ e.kind = .io
  volume : (s.perform action).1.volume = s.volume
  session : ∀ id, (s.perform action).1.sessions.get? id = s.sessions.get? id
  ages : s.roster.Ages (s.perform action).1.roster

namespace Occupies

theorem sits (h : s.Occupies id text home m p) (htells : c.Tells s.volume s.roster) :
    s.volume.isLocked home.directory.lock = true ∧ home.directory.lock ≠ home.data ∧
      s.volume.contents home.data = .image m := by
  obtain ⟨engine, hengine, hhome, rfl⟩ := Roster.tenant?_eq_some_iff.mp h.tenant
  have hsits := htells.serves.sits hengine
  have hnodup := hsits.nodup
  rw [Engine.files_eq hhome] at hnodup
  refine ⟨hsits.locked (Engine.mem_files_lock hhome), fun heq => ?_, hsits.image hhome⟩
  exact (List.nodup_cons.mp hnodup).1 (List.mem_singleton.mpr heq)

/-- While a session has the database, nobody else gets at it. -/
theorem repels (h : s.Occupies id text home m p) (htells : c.Tells s.volume s.roster)
    {action : Action} (hat : action.path? = some text) : s.Repels action := by
  obtain ⟨hheld, _⟩ := h.sits htells
  obtain ⟨_, rfl, hhouses, hleads⟩ := h
  cases action with
  | openAt path options =>
    obtain rfl := Option.some.inj hat
    obtain ⟨s', heq, hvolume, hroster⟩ := openAt_of_error
      (Engine.openPath_of_held hhouses.check hhouses.fits hleads hhouses.lock hheld options
        s.verdicts)
    refine ⟨⟨_, by simp only [perform, heq]; rfl, rfl⟩, ?_, fun id => ?_, ?_⟩
    · simp only [perform, heq, hvolume]
    · simp only [perform, heq]
      exact congrArg (fun r : Roster => r.sessions.get? id) hroster
    · simp only [perform, heq, hroster]
      exact Roster.ages_skipSession _
  | destroy path =>
    obtain rfl := Option.some.inj hat
    obtain ⟨hroster, hvolume, houtcome⟩ := destroy_spec s home.directory.text
    have hdestroy := Directory.destroy_of_held (isThere_of_leads hhouses.check hleads)
      (checkText_lockPath hhouses.fits) hleads hhouses.lock hheld
    rw [hdestroy] at hvolume houtcome
    refine ⟨⟨_, by simp only [perform, houtcome]; rfl, rfl⟩, hvolume, fun id => ?_, ?_⟩
    · exact congrArg (fun r : Roster => r.sessions.get? id) hroster
    · simp only [perform, hroster]
      exact Roster.Ages.refl _
  | repair path =>
    obtain rfl := Option.some.inj hat
    obtain ⟨hvolume, houtcome⟩ := repair_eq s home.directory.text
    obtain ⟨hroster, _⟩ := repair_spec s home.directory.text
    have hcheck := Engine.checkPath_of_held hhouses.check hhouses.fits hleads hhouses.lock hheld
    rw [hcheck] at hvolume houtcome
    refine ⟨⟨_, by simp only [perform, houtcome]; rfl, rfl⟩, hvolume, fun id => ?_, ?_⟩
    · exact congrArg (fun r : Roster => r.sessions.get? id) hroster
    · simp only [perform, hroster]
      exact Roster.ages_skipSession _
  | _ => simp [Action.path?] at hat

/-- Once its files have been let go of, the database is at rest with the map of the session. -/
theorem settled (h : s.Occupies id text home m p) (htells : c.Tells s.volume s.roster) :
    ((s.volume.setLocked home.data false).setLocked home.directory.lock false).Settled text p
      (some m) := by
  obtain ⟨_, hne, himage⟩ := h.sits htells
  obtain ⟨_, rfl, hhouses, hleads⟩ := h
  have hextends := (extends_setLocked s.volume home.data false).trans
    (extends_setLocked _ home.directory.lock false)
  refine ⟨(htells.serves.wellFormed.setLocked _ _).setLocked _ _, hhouses.check, hhouses.fits,
    hleads.mono hextends.keepsDirectories, fun node hnode => ?_, fun hnone => by simp at hnone,
    fun m' hm => ?_⟩
  · rw [hextends.node hhouses.lock] at hnode
    refine ⟨_, (Option.some.inj hnode).symm, ?_⟩
    rw [isLocked_setLocked, if_pos rfl, Bool.and_false]
  · obtain rfl := Option.some.inj hm
    refine ⟨home.data, hextends.node hhouses.data, ?_, ?_, ?_⟩
    · rw [isLocked_setLocked_of_ne _ _ hne.symm, isLocked_setLocked, if_pos rfl, Bool.and_false]
    · rw [contents_setLocked, contents_setLocked, himage]
    · rw [hextends.node hhouses.lock]
      exact fun heq => hne (Node.file.inj (Option.some.inj heq))

/-- Whoever has the database can write to it what the engine grants. -/
theorem commit (h : s.Occupies id text home m p) (htells : c.Tells s.volume s.roster)
    {write : Write} (hgrants : s.verdicts.Grants .write write.mutations) :
    (s.commit id write).2 = .ok () ∧
      (s.commit id write).1.Occupies id text home (m.applyAll write.mutations) p ∧
      ∀ id', id' ≠ id → (s.commit id write).1.roster.tenant? id' = s.roster.tenant? id' := by
  obtain ⟨htenant, hpath, hhouses, hleads⟩ := h
  obtain ⟨engine, hengine, hhome, rfl⟩ := Roster.tenant?_eq_some_iff.mp htenant
  obtain ⟨session, hsession, rfl⟩ := Option.map_eq_some_iff.mp hengine
  obtain ⟨houtcome, hvolume, htenants⟩ := commit_of_grants htells hsession hgrants
  rw [hhome] at hvolume htenants
  have hextends := extends_setContents s.volume home.data
    (.image (session.engine.latest.applyAll write.mutations))
  refine ⟨houtcome, ⟨?_, hpath, ?_, ?_⟩, fun id' hne => ?_⟩
  · rw [htenants, if_pos rfl]
    rfl
  · rw [hvolume]
    exact hhouses.mono hextends
  · rw [hvolume]
    exact hleads.mono hextends.keepsDirectories
  · rw [htenants, if_neg hne]

end Occupies

/-! ## Keeping a shelf -/

/-- The one tenant of a store is the session that has the database open; nobody holds the database
otherwise. -/
structure Matches (s : Store) (text : String) (shelf : Shelf) : Prop where
  tells : ∃ c : Chronicle, c.Tells s.volume s.roster
  tenant : ∀ {id : SessionId} {home : Home} {m : Keyspace},
    s.roster.tenant? id = some (home, m) → shelf.live = some id
  rests : shelf.live = none → s.volume.Rests text shelf.kept
  occupies : ∀ {id : SessionId}, shelf.live = some id →
    ∃ home m p, shelf.kept = some m ∧ s.Occupies id text home m p

namespace Matches

/-- Nothing happens on the disk. -/
theorem stay (h : s.Matches text shelf) (htells : ∃ c : Chronicle, c.Tells s'.volume s'.roster)
    (htenants : ∀ id, s'.roster.tenant? id = s.roster.tenant? id)
    (hvolume : s'.volume = s.volume) : s'.Matches text shelf where
  tells := htells
  tenant htenant := h.tenant ((htenants _).symm.trans htenant)
  rests hlive := by
    rw [hvolume]
    exact h.rests hlive
  occupies hlive := by
    obtain ⟨home, m, p, hkept, htenant, hpath, hhouses, hleads⟩ := h.occupies hlive
    refine ⟨home, m, p, hkept, (htenants _).trans htenant, hpath, ?_, ?_⟩
    · rw [hvolume]
      exact hhouses
    · rw [hvolume]
      exact hleads

/-- The database is at rest, and stays so. -/
theorem rest (h : s.Matches text shelf) (hlive : shelf.live = none) {kept : Option Keyspace}
    (htells : ∃ c : Chronicle, c.Tells s'.volume s'.roster) (hages : s.roster.Ages s'.roster)
    (hrests : s'.volume.Rests text kept) : s'.Matches text { shelf with kept := kept } where
  tells := htells
  tenant htenant := h.tenant ((hages.tenant _).symm.trans htenant)
  rests _ := hrests
  occupies hsome := by
    rw [show shelf.live = some _ from hsome] at hlive
    simp at hlive

/-- The database is open, and others try to get at it. -/
theorem repels (h : s.Matches text shelf) (hlive : shelf.live = some id) {action : Action}
    (hat : action.path? = some text) :
    s.Repels action ∧ (s.perform action).1.Matches text shelf := by
  obtain ⟨home, m, p, _, hoccupies⟩ := h.occupies hlive
  obtain ⟨c, hc⟩ := h.tells
  have hrepels := hoccupies.repels hc hat
  exact ⟨hrepels, h.stay ⟨_, hc.perform action⟩ hrepels.ages.tenant hrepels.volume⟩

theorem openAt (h : s.Matches text shelf) (hreopens : s.verdicts.Reopens)
    (hlive : shelf.live = none) (options : Options)
    (htells : ∃ c : Chronicle, c.Tells (s.openAt text options).1.volume
      (s.openAt text options).1.roster) :
    (s.openAt text options).1.Matches text
      (shelf.note (.openAt text options) (.opened (s.openAt text options).2)) := by
  cases hadmits : options.admits shelf.kept.isSome with
  | false =>
    obtain ⟨u, e, hopen, hrests, _⟩ := (h.rests hlive).openPath_of_refuses hadmits s.verdicts
    obtain ⟨s', heq, rfl, hroster⟩ := openAt_of_error hopen
    rw [heq] at htells ⊢
    exact h.rest hlive htells (hroster ▸ Roster.ages_skipSession _) hrests
  | true =>
    obtain ⟨u, engine, hopen, hlatest⟩ := (h.rests hlive).openPath_of_admits hadmits hreopens
    obtain ⟨s', logger, heq, rfl, hroster⟩ := openAt_of_ok hopen
    obtain ⟨hfits, lock, data, p, hhome, hleads, hlock, hdata⟩ := Engine.home_of_openPath hopen
    have htenants := Roster.tenant?_openSession (r := s.roster) ⟨logger, options, engine, 0, 0, []⟩
    rw [heq] at htells ⊢
    refine ⟨htells, fun {id home m} htenant => ?_, fun hnone => by simp [Shelf.note] at hnone,
      fun {id} hsome => ?_⟩
    · rw [hroster, htenants] at htenant
      split at htenant
      · rename_i hfresh
        rw [hfresh]
        rfl
      · rw [h.tenant htenant] at hlive
        simp at hlive
    · obtain rfl : s.sessions.fresh = id := Option.some.inj hsome
      refine ⟨⟨⟨text, lock⟩, data⟩, _, p, rfl, ?_, rfl, ?_, hleads⟩
      · have hfresh : s.sessions.fresh = s.roster.sessions.fresh := rfl
        rw [hroster, htenants, if_pos hfresh, hhome, ← hlatest]
        rfl
      · exact ⟨Engine.checkText_of_openPath hopen, hfits, hleads.eq_foldl, hlock, hdata,
          fun _ => hleads⟩

theorem destroy (h : s.Matches text shelf) (hlive : shelf.live = none)
    (htells : ∃ c : Chronicle, c.Tells (s.destroy text).1.volume (s.destroy text).1.roster) :
    (s.destroy text).1.Matches text (shelf.note (.destroy text) (.done (s.destroy text).2)) := by
  obtain ⟨hroster, hvolume, houtcome⟩ := destroy_spec s text
  obtain ⟨hrests, hok⟩ := (h.rests hlive).destroy
  rw [houtcome, hok]
  refine h.rest hlive htells (hroster ▸ Roster.Ages.refl _) ?_
  rw [hvolume]
  exact hrests

theorem repair (h : s.Matches text shelf) (hreopens : s.verdicts.Reopens)
    (hlive : shelf.live = none)
    (htells : ∃ c : Chronicle, c.Tells (s.repair text).1.volume (s.repair text).1.roster) :
    (s.repair text).1.Matches text shelf := by
  obtain ⟨hvolume, _⟩ := repair_eq s text
  obtain ⟨hroster, _⟩ := repair_spec s text
  obtain ⟨hrests, _⟩ := (h.rests hlive).checkPath hreopens
  rw [← hvolume] at hrests
  exact h.rest hlive htells (hroster ▸ Roster.ages_skipSession _) hrests

/-- Whoever acts at the path of the database. -/
theorem perform_at (h : s.Matches text shelf) (hreopens : s.verdicts.Reopens) {action : Action}
    (hat : action.path? = some text) :
    (s.perform action).1.Matches text (shelf.note action (s.perform action).2) := by
  cases hlive : shelf.live with
  | some id =>
    obtain ⟨hrepels, hmatches⟩ := h.repels hlive hat
    obtain ⟨e, herror, _⟩ := hrepels.fails
    have hends : action.ends? = none := by
      cases action with
      | close id => simp [Action.path?] at hat
      | discard id => simp [Action.path?] at hat
      | _ => rfl
    rw [Shelf.note_of_error hends (by rw [herror]; rfl)]
    exact hmatches
  | none =>
    obtain ⟨c, hc⟩ := h.tells
    have htells : ∃ c : Chronicle,
        c.Tells (s.perform action).1.volume (s.perform action).1.roster := ⟨_, hc.perform action⟩
    cases action with
    | openAt path options =>
      obtain rfl := Option.some.inj hat
      exact h.openAt hreopens hlive options htells
    | destroy path =>
      obtain rfl := Option.some.inj hat
      exact h.destroy hlive htells
    | repair path =>
      obtain rfl := Option.some.inj hat
      exact h.repair hreopens hlive htells
    | _ => simp [Action.path?] at hat

/-- Only the session that has the database open is a tenant. -/
theorem tenant_of_other (h : s.Matches text shelf) (hid : shelf.live ≠ some id) :
    s.roster.tenant? id = none := by
  cases htenant : s.roster.tenant? id with
  | none => rfl
  | some found => exact absurd (h.tenant htenant) hid

theorem home_of_other (h : s.Matches text shelf) (hid : shelf.live ≠ some id) {session : Session}
    (hsession : s.sessions.get? id = some session) : session.engine.home = none := by
  have hnone := h.tenant_of_other hid
  rw [Roster.tenant?, Roster.engine?_of_session (r := s.roster) hsession] at hnone
  exact Option.map_eq_none_iff.mp hnone

theorem ends (h : s.Matches text shelf) (htells : ∃ c : Chronicle, c.Tells s'.volume s'.roster)
    (hroster : s'.roster = s.roster.endSession id)
    (hvolume : s'.volume = match s.sessions.get? id with
      | none => s.volume
      | some session => session.engine.release s.volume) :
    s'.Matches text (shelf.leave id) := by
  have htenants := fun id' => Roster.tenant?_endSession (r := s.roster) id id'
  unfold Shelf.leave
  split
  · rename_i hlive
    obtain ⟨home, m, p, hkept, hoccupies⟩ := h.occupies hlive
    obtain ⟨c, hc⟩ := h.tells
    refine ⟨htells, fun {id' home m} htenant => ?_, fun _ => ?_, fun hsome => by simp at hsome⟩
    · rw [hroster, htenants] at htenant
      split at htenant
      · simp at htenant
      · rename_i hne
        exact absurd (Option.some.inj ((h.tenant htenant).symm.trans hlive)) hne
    · obtain ⟨engine, hengine, hhome, _⟩ := Roster.tenant?_eq_some_iff.mp hoccupies.tenant
      obtain ⟨session, hsession, rfl⟩ := Option.map_eq_some_iff.mp hengine
      have hsettled := hoccupies.settled hc
      rw [hvolume, show s.sessions.get? id = some session from hsession, hkept]
      simp only [Engine.release, hhome]
      exact .settled hsettled
  · rename_i hother
    refine h.stay htells (fun id' => ?_) ?_
    · rw [hroster, htenants]
      split
      · rename_i heq
        rw [heq, h.tenant_of_other hother]
      · rfl
    · rw [hvolume]
      cases hsession : s.sessions.get? id with
      | none => rfl
      | some session => simp only [Engine.release, h.home_of_other hother hsession]

theorem commit (h : s.Matches text shelf) (write : Write)
    (htells : ∃ c : Chronicle, c.Tells (s.commit id write).1.volume (s.commit id write).1.roster)
    (keep : Except Error Unit → Shelf) (herror : ∀ e, keep (.error e) = shelf)
    (hok : keep (.ok ()) = shelf.change id fun m => m.applyAll write.mutations) :
    (s.commit id write).1.Matches text (keep (s.commit id write).2) := by
  cases hsession : s.sessions.get? id with
  | none =>
    rw [commit_of_closed hsession, herror]
    exact h
  | some session =>
    obtain ⟨c, hc⟩ := h.tells
    rcases s.verdicts.grants_or_refuses .write write.mutations with hgrants | ⟨fault, hrefuses⟩
    case inr =>
      obtain ⟨⟨e, houtcome⟩, hvolume, htenants⟩ := commit_of_refuses hc hsession hrefuses
      rw [houtcome, herror]
      exact h.stay htells htenants hvolume
    obtain ⟨houtcome, hvolume, htenants⟩ := commit_of_grants hc hsession hgrants
    rw [houtcome, hok]
    unfold Shelf.change
    split
    · rename_i hlive
      obtain ⟨home, m, p, hkept, hoccupies⟩ := h.occupies hlive
      obtain ⟨_, hagain, hothers⟩ := hoccupies.commit hc hgrants
      refine ⟨htells, fun {id' home m} htenant => ?_, fun hnone => ?_, fun {id'} hsome => ?_⟩
      · by_cases heq : id' = id
        · rw [heq]
          exact hlive
        · exact h.tenant ((hothers id' heq).symm.trans htenant)
      · rw [show shelf.live = none from hnone] at hlive
        simp at hlive
      · obtain rfl := Option.some.inj (hlive.symm.trans hsome)
        exact ⟨home, _, p, by rw [hkept]; rfl, hagain⟩
    · rename_i hother
      rw [h.home_of_other hother hsession] at hvolume htenants
      refine h.stay htells (fun id' => ?_) hvolume
      rw [htenants]
      split
      · rename_i heq
        rw [heq, h.tenant_of_other hother]
        rfl
      · rfl

/-- One action at the path keeps the shelf in step with the store. -/
theorem perform (h : s.Matches text shelf) (hreopens : s.verdicts.Reopens) {action : Action}
    (hat : action.path?.all (· = text) = true) :
    (s.perform action).1.Matches text (shelf.note action (s.perform action).2) := by
  obtain ⟨c, hc⟩ := h.tells
  have htells : ∃ c : Chronicle,
      c.Tells (s.perform action).1.volume (s.perform action).1.roster := ⟨_, hc.perform action⟩
  cases deed hc.coherent action with
  | opens path options => exact h.perform_at hreopens (congrArg some (of_decide_eq_true hat))
  | ends id hends hroster hvolume =>
    rw [Shelf.note_of_ends hends]
    exact h.ends htells hroster hvolume
  | commits id write hwrites heq =>
    obtain ⟨hok, herror⟩ := shelf.note_of_writes hwrites
    rw [heq] at htells ⊢
    exact h.commit write htells (fun outcome => shelf.note action (.done outcome)) herror hok
  | destroys path => exact h.perform_at hreopens (congrArg some (of_decide_eq_true hat))
  | repairs path => exact h.perform_at hreopens (congrArg some (of_decide_eq_true hat))
  | looks hlooks hages hvolume =>
    rw [Shelf.note_of_looks hlooks]
    exact h.stay htells hages.tenant hvolume

end Matches

/-- The shelf after several actions. -/
def shelve (s : Store) (shelf : Shelf) : List Action → Shelf
  | [] => shelf
  | action :: rest => shelve (s.perform action).1 (shelf.note action (s.perform action).2) rest

theorem reopens_perform (h : s.verdicts.Reopens) {action : Action}
    (hsway : ∀ verdicts, action = .sway verdicts → verdicts.Reopens) :
    (s.perform action).1.verdicts.Reopens := by
  rw [verdicts_perform]
  cases action with
  | sway verdicts => exact hsway verdicts rfl
  | _ => exact h

/-- So does a whole run, and the engine goes on reopening what it has written. -/
theorem Matches.run (h : s.Matches text shelf) (hreopens : s.verdicts.Reopens)
    {actions : List Action} (hat : ∀ action ∈ actions, action.path?.all (· = text) = true)
    (hsway : ∀ verdicts, .sway verdicts ∈ actions → verdicts.Reopens) :
    (s.run actions).Matches text (s.shelve shelf actions) ∧
      (s.run actions).verdicts.Reopens := by
  induction actions generalizing s shelf with
  | nil => exact ⟨h, hreopens⟩
  | cons action rest ih =>
    refine ih (h.perform hreopens (hat action List.mem_cons_self)) ?_
      (fun other hmem => hat other (List.mem_cons_of_mem _ hmem))
      fun verdicts hmem => hsway verdicts (List.mem_cons_of_mem _ hmem)
    refine reopens_perform hreopens fun verdicts heq => hsway verdicts ?_
    rw [heq]
    exact List.mem_cons_self

/-- A store that starts on a database at rest. -/
theorem matches_of_rests {v : Volume} {kept : Option Keyspace} (h : v.Rests text kept) :
    (ofVolume v).Matches text ⟨none, kept⟩ where
  tells := ⟨_, Chronicle.tells_empty h.wellFormed⟩
  tenant htenant := by simp [ofVolume, Store.roster, Roster.tenant?, Roster.engine?] at htenant
  rests _ := h
  occupies hsome := by simp at hsome

theorem matches_ofVolume {v : Volume} (h : v.WellFormed) (hcreatable : v.Creatable text) :
    (ofVolume v).Matches text .vacant := matches_of_rests (.missing h hcreatable)

end Store

end OrderedStore
