import OrderedStore.Proofs.Cursor
import OrderedStore.Proofs.Store.Housing
import OrderedStore.Proofs.Store.Isolation

/-!
# Closing a session

`closing_cuts_off` says what is left once a session has been closed, in any state that a
store can come to: its snapshots and iterators are still there, but they have no view and
refuse everything, and no call brings one of them back; the children of others are as they
were; and its files are free, so that the database can be opened again or destroyed at once.

The states are those after any number of turns.  A turn is an action, or somebody else
writes into a file, which is how an iterator comes to be degraded.  That a child of a
closed session has no view is coherence (`Roster.Coherent.viewOf_of_closed`), and that the
session stays closed is that identities are never given again (`Past`).
-/

set_option autoImplicit false

namespace OrderedStore

open Volume

/-! ## Children of a closed session -/

namespace Roster

variable {r r' : Roster} {id : SessionId} {b : Borrower}

theorem Coherent.viewOf_of_closed (h : r.Coherent) (hclosed : r.isOpen id = false)
    (howner : r.owner? b = some id) : r.viewOf b = none := by
  unfold viewOf
  cases hlease : r.lease? b with
  | none => rfl
  | some lease =>
    obtain ⟨view, hview, hsome⟩ := h.leased.held howner hlease
    rw [hclosed, Option.isSome_eq_false_iff, Option.isNone_iff_eq_none] at hsome
    show (r.leases.get? lease).bind Lease.view = none
    rw [hview, hsome]
    rfl

/-- A session that is closed, and whose identity has been given already. -/
structure Past (r : Roster) (id : SessionId) : Prop where
  closed : r.isOpen id = false
  given : id.number < r.sessions.next

theorem Past.ages (h : r.Past id) (hages : r.Ages r') : r'.Past id :=
  ⟨(hages.isOpen h.given).trans h.closed, Nat.lt_of_lt_of_le h.given hages.next_le⟩

theorem Past.openSession (h : r.Past id) (session : Session) : (r.openSession session).Past id := by
  refine ⟨?_, Nat.lt_succ_of_lt h.given⟩
  have hne : id ≠ r.sessions.fresh := by
    rintro rfl
    exact Nat.lt_irrefl _ h.given
  rw [isOpen_openSession, if_neg hne]
  exact h.closed

theorem Past.endSession (h : r.Past id) (other : SessionId) : (r.endSession other).Past id := by
  refine ⟨?_, (next_endSession other).symm ▸ h.given⟩
  rw [isOpen_endSession]
  split
  · rfl
  · exact h.closed

end Roster

namespace Store

variable {s : Store} {id : SessionId}

/-- What happens to a store: an action, or somebody else's change of what is in a file. -/
inductive Turn where
  | act (action : Action)
  | damage (file : FileId) (contents : Contents)

/-- The store after one turn. -/
def turn (s : Store) : Turn → Store
  | .act action => (s.perform action).1
  | .damage file contents => { s with volume := s.volume.setContents file contents }

/-- The store after several turns. -/
def undergo (s : Store) (turns : List Turn) : Store := turns.foldl turn s

theorem undergo_act (s : Store) (actions : List Action) :
    s.undergo (actions.map .act) = s.run actions := by
  induction actions generalizing s with
  | nil => rfl
  | cons action rest ih => exact ih _

/-! ## What turns keep -/

theorem coherent_turn (h : s.roster.Coherent) (turn : Turn) : (s.turn turn).roster.Coherent := by
  cases turn with
  | act action => exact coherent_perform h action
  | damage file contents => exact h

theorem shelters_turn (hcoherent : s.roster.Coherent) (h : s.volume.Shelters s.roster.tenant?)
    (turn : Turn) : (s.turn turn).volume.Shelters (s.turn turn).roster.tenant? := by
  cases turn with
  | act action => exact shelters_perform hcoherent h action
  | damage file contents => exact h.setContents file contents fun {_ _ m'} hid => ⟨m', hid⟩

theorem past_perform (hcoherent : s.roster.Coherent) (h : s.roster.Past id) (action : Action) :
    (s.perform action).1.roster.Past id := by
  cases deed hcoherent action with
  | opens path options =>
    rcases openAt_spec s path options with ⟨s', engine, heq, hopened⟩ | ⟨s', e, heq, hfailed⟩
    · obtain ⟨logger, options', hroster⟩ := hopened.roster
      simp only [perform, heq]
      rw [hroster]
      exact h.openSession _
    · simp only [perform, heq]
      rw [hfailed.roster]
      exact h.ages (Roster.ages_skipSession _)
  | ends other _ hroster _ =>
    rw [hroster]
    exact h.endSession other
  | commits other write _ heq =>
    rw [heq]
    cases hsession : s.sessions.get? other with
    | none =>
      rw [commit_of_closed hsession]
      exact h
    | some session =>
      show (s.commit other write).1.roster.Past id
      rw [(commit_of_open hsession write).1]
      exact ⟨(Roster.isOpen_modifySession id).trans h.closed, h.given⟩
  | destroys path =>
    show (s.destroy path).1.roster.Past id
    rw [(destroy_spec s path).1]
    exact h
  | repairs path =>
    show (s.repair path).1.roster.Past id
    rw [(repair_spec s path).1]
    exact h.ages (Roster.ages_skipSession _)
  | looks _ hages _ => exact h.ages hages

theorem past_turn (hcoherent : s.roster.Coherent) (h : s.roster.Past id) (turn : Turn) :
    (s.turn turn).roster.Past id := by
  cases turn with
  | act action => exact past_perform hcoherent h action
  | damage file contents => exact h

theorem coherent_undergo (h : s.roster.Coherent) (turns : List Turn) :
    (s.undergo turns).roster.Coherent := by
  induction turns generalizing s with
  | nil => exact h
  | cons turn rest ih => exact ih (coherent_turn h turn)

theorem shelters_undergo (hcoherent : s.roster.Coherent)
    (h : s.volume.Shelters s.roster.tenant?) (turns : List Turn) :
    (s.undergo turns).volume.Shelters (s.undergo turns).roster.tenant? := by
  induction turns generalizing s with
  | nil => exact h
  | cons turn rest ih => exact ih (coherent_turn hcoherent turn) (shelters_turn hcoherent h turn)

theorem past_undergo (hcoherent : s.roster.Coherent) (h : s.roster.Past id)
    (turns : List Turn) : (s.undergo turns).roster.Past id := by
  induction turns generalizing s with
  | nil => exact h
  | cons turn rest ih => exact ih (coherent_turn hcoherent turn) (past_turn hcoherent h turn)

/-! ## Bereft children -/

/-- What the session handed out has no view any more and refuses everything. -/
structure Bereft (s : Store) (id : SessionId) : Prop where
  closed : s.isOpen id = false
  view : ∀ b, s.roster.owner? b = some id → s.roster.viewOf b = none
  released : ∀ snapshot, s.roster.owner? (.snapshot snapshot) = some id →
    s.isReleased snapshot = true
  entry : ∀ iterator, s.roster.owner? (.iterator iterator) = some id →
    s.entry? iterator = none
  status : ∀ iterator, s.roster.owner? (.iterator iterator) = some id →
    s.status iterator = .error (.closed .database)
  seek : ∀ iterator m, s.roster.owner? (.iterator iterator) = some id → m ≠ .next → m ≠ .prev →
    (s.move iterator m).2 = .error (.closed .database)

theorem bereft_of_closed (h : s.roster.Coherent) (hclosed : s.isOpen id = false) :
    s.Bereft id := by
  have hrow : ∀ iterator, s.roster.owner? (.iterator iterator) = some id →
      ∃ row, s.iterators.get? iterator = some row ∧ s.isOpen row.owner = false := by
    intro iterator howner
    obtain ⟨row, hrow, hid⟩ := Option.map_eq_some_iff.mp howner
    exact ⟨row, hrow, hid ▸ hclosed⟩
  refine ⟨hclosed, fun b => h.viewOf_of_closed hclosed, ?_, ?_, ?_, ?_⟩
  · intro snapshot howner
    obtain ⟨row, hrow, hid⟩ := Option.map_eq_some_iff.mp howner
    unfold isReleased
    rw [show s.snapshots.get? snapshot = some row from hrow]
    simp only [hid, hclosed, Bool.not_false, Bool.or_true]
  · intro iterator howner
    obtain ⟨row, hget, hopen⟩ := hrow iterator howner
    unfold Store.entry?
    rw [hget, Option.bind_some, hopen, Cursor.entry?_of_closed]
  · intro iterator howner
    obtain ⟨row, hget, hopen⟩ := hrow iterator howner
    rw [Store.status, hget]
    simp only [hopen]
    rfl
  · intro iterator m howner hnext hprev
    obtain ⟨row, hget, hopen⟩ := hrow iterator howner
    have hreader : s.reader row = none := by
      have hnone : s.sessions.get? row.owner = none := by
        rw [Store.isOpen, Option.isSome_eq_false_iff, Option.isNone_iff_eq_none] at hopen
        exact hopen
      rw [Store.reader, hnone]
      rfl
    have hasks : (row.cursor.query? m).isSome = true := by
      cases m with
      | next => exact absurd rfl hnext
      | prev => exact absurd rfl hprev
      | first => rfl
      | last => rfl
      | seek key => rfl
    rw [(move_of_some hget m).2.2, hreader, Cursor.move_of_closed hasks]

/-! ## Files that have been let go -/

/-- Nobody holds the files of the database any more, so it can be opened again, if the engine has
nothing against it, or be destroyed. -/
structure LetsGo (s : Store) (home : Home) : Prop where
  lock : s.volume.isLocked home.directory.lock = false
  data : s.volume.isLocked home.data = false
  /-- The path leads to the database still, but for steps back over what has been
  destroyed since. -/
  there : ".." ∉ Volume.names home.directory.text →
    s.volume.leadsToDirectory home.directory.text = true
  opens : s.volume.leadsToDirectory home.directory.text = true → s.verdicts.Reopens →
    ∀ (options : Options) (m : Keyspace), options.errorIfExists = false →
      Engine.judge options.createIfMissing (s.volume.contents home.data) = .ok m →
      ∃ s' id, s.openAt home.directory.text options = (s', .ok id) ∧
        s'.roster.committed? id = some m
  destroys : s.volume.leadsToDirectory home.directory.text = true →
    (s.destroy home.directory.text).2 = .ok () ∧
      (s.destroy home.directory.text).1.volume.isThere
        (Directory.dataPath home.directory.text) = false

theorem letsGo_of_houses {home : Home} {p : Path} (h : s.volume.Houses home p)
    (hnodup : home.files.Nodup) (hlock : s.volume.isLocked home.directory.lock = false)
    (hdata : s.volume.isLocked home.data = false) : s.LetsGo home where
  lock := hlock
  data := hdata
  there := h.leadsToDirectory
  opens hleads hreopens options m hexists hjudge := by
    have hne : home.data ≠ home.directory.lock := by
      have hnotMem := (List.nodup_cons.mp hnodup).1
      exact fun heq => hnotMem (List.mem_singleton.mpr heq.symm)
    have hopen := Engine.openPath_of_free h.check h.fits (h.leads hleads) h.lock h.data hlock hdata
      hne hreopens hexists hjudge
    obtain ⟨s', logger, heq, _, hroster⟩ := openAt_of_ok hopen
    refine ⟨s', _, heq, ?_⟩
    rw [hroster, Roster.committed?, Roster.engine?_openSession]
    exact congrArg (Option.map Engine.latest) (if_pos rfl)
  destroys hleads := by
    have hthere := isThere_of_leads h.check (h.leads hleads)
    have hnode : s.volume.node? (p ++ ["data.redb"]) ≠ some .directory := by
      rw [h.data]
      simp
    obtain ⟨_, hvolume, houtcome⟩ := destroy_spec s home.directory.text
    rw [hvolume, houtcome]
    refine ⟨?_,
      Directory.isThere_dataPath_of_free hthere h.fits (h.leads hleads) h.lock hlock hnode⟩
    rw [Directory.destroy_of_free hthere h.fits (h.leads hleads) h.lock hlock hnode]

/-- A session that is closed lets go of its files. -/
theorem letsGo_close (h : s.volume.Shelters s.roster.tenant?) {home : Home} {m : Keyspace}
    (htenant : s.roster.tenant? id = some (home, m)) : (s.close id).LetsGo home := by
  obtain ⟨engine, hengine, hhome, _⟩ := Roster.tenant?_eq_some_iff.mp htenant
  obtain ⟨session, hsession, rfl⟩ := Option.map_eq_some_iff.mp hengine
  have hvolume : (s.close id).volume =
      (s.volume.setLocked home.data false).setLocked home.directory.lock false := by
    rw [volume_close, show s.sessions.get? id = some session from hsession]
    simp only [Engine.release, hhome]
    rfl
  obtain ⟨p, hhouses⟩ := h.houses htenant
  refine letsGo_of_houses (p := p) ?_ (h.nodup htenant) ?_ ?_
  · rw [hvolume]
    exact hhouses.mono ((extends_setLocked _ _ _).trans (extends_setLocked _ _ _))
  · rw [hvolume, isLocked_setLocked, if_pos rfl, Bool.and_false]
  · rw [hvolume, isLocked_setLocked]
    split
    · exact Bool.and_false _
    · rw [isLocked_setLocked, if_pos rfl, Bool.and_false]

/-! ## Closing -/

/-- What closing a session does. -/
structure CutOff (s : Store) (id : SessionId) : Prop where
  /-- The children are all still there. -/
  owner : ∀ b, (s.close id).roster.owner? b = s.roster.owner? b
  /-- Those of the session are of no use any more, whatever happens from now on. -/
  bereft : ∀ turns, ((s.close id).undergo turns).Bereft id
  /-- Those of other sessions are as they were. -/
  others : ∀ b, s.roster.owner? b ≠ some id → (s.close id).roster.viewOf b = s.roster.viewOf b
  counters : ∀ other, other ≠ id →
    (s.close id).roster.counters? other = s.roster.counters? other
  cursors : ∀ iterator, (s.close id).roster.cursor? iterator = s.roster.cursor? iterator
  /-- The files of the session, if it has any, are free. -/
  files : ∀ {home : Home} {m : Keyspace}, s.roster.tenant? id = some (home, m) →
    (s.close id).LetsGo home

theorem cutOff (h : s.roster.Coherent) (hshelters : s.volume.Shelters s.roster.tenant?)
    (hopen : s.isOpen id = true) : s.CutOff id := by
  have hended := roster_close s id
  have hcoherent : (s.close id).roster.Coherent := by
    rw [hended]
    exact h.endSession id
  have hpast : (s.close id).roster.Past id := by
    obtain ⟨session, hsession⟩ := Option.isSome_iff_exists.mp hopen
    refine ⟨?_, ?_⟩
    · rw [hended, Roster.isOpen_endSession, if_pos rfl]
    · rw [hended, Roster.next_endSession]
      exact h.sessions.number_lt hsession
  refine ⟨fun b => ?_, fun turns => ?_, fun b hother => ?_, fun other hne => ?_,
    fun iterator => ?_, letsGo_close hshelters⟩
  · rw [hended, Roster.owner?_endSession]
  · exact bereft_of_closed (coherent_undergo hcoherent turns)
      (past_undergo hcoherent hpast turns).closed
  · rw [hended, h.viewOf_endSession hopen, if_neg hother]
  · rw [hended, Roster.counters?, Roster.get?_sessions_endSession, if_neg hne, Roster.counters?]
  · rw [hended, Roster.cursor?_endSession]

/-- Closing a session, in any state that a store can come to, cuts its children off for ever
and lets go of its files.  If nobody else has written to the files, the engine file then has
the map that the session committed last. -/
theorem closing_cuts_off {v : Volume} (h : v.WellFormed) (turns : List Turn)
    (hopen : ((ofVolume v).undergo turns).isOpen id = true) :
    ((ofVolume v).undergo turns).CutOff id ∧
      ∀ (actions : List Action) (home : Home) (m : Keyspace), turns = actions.map .act →
        ((ofVolume v).undergo turns).roster.tenant? id = some (home, m) →
        (((ofVolume v).undergo turns).close id).volume.contents home.data = .image m := by
  have hempty := coherent_ofVolume v
  refine ⟨cutOff (coherent_undergo hempty turns)
    (shelters_undergo hempty (shelters_ofVolume h) turns) hopen, ?_⟩
  rintro actions home m rfl htenant
  have htells := Chronicle.Tells.run (s := ofVolume v) (Chronicle.tells_empty h) actions
  rw [chronicleAll_fst] at htells
  rw [undergo_act] at htenant ⊢
  obtain ⟨engine, hengine, hhome, rfl⟩ := Roster.tenant?_eq_some_iff.mp htenant
  obtain ⟨session, hsession, rfl⟩ := Option.map_eq_some_iff.mp hengine
  have himage := (htells.serves.sits hengine).image hhome
  rw [volume_close, show ((ofVolume v).run actions).sessions.get? id = some session from hsession]
  simp only [Engine.release, hhome, Directory.release, contents_setLocked, himage]

/-- The theorem on a database on the disk that is closed with a snapshot, an iterator on an entry
and a degraded one left. -/
theorem closing_cuts_off_on_disk :
    ((ofVolume .empty).undergo
        [.act (.openAt "db" {}), .act (.put ⟨0⟩ [1] [2] true), .act (.snapshot ⟨0⟩),
          .act (.iterate ⟨0⟩ none), .act (.move ⟨0⟩ .first), .damage ⟨1⟩ (.raw []),
          .act (.iterate ⟨0⟩ none)]).isOpen ⟨0⟩ = true ∧
      ((ofVolume .empty).undergo
        [.act (.openAt "db" {}), .act (.put ⟨0⟩ [1] [2] true), .act (.snapshot ⟨0⟩),
          .act (.iterate ⟨0⟩ none), .act (.move ⟨0⟩ .first), .damage ⟨1⟩ (.raw []),
          .act (.iterate ⟨0⟩ none)]).CutOff ⟨0⟩ :=
  ⟨by decide +kernel, (closing_cuts_off Volume.wellFormed_empty _ (by decide +kernel)).1⟩

end Store

end OrderedStore
