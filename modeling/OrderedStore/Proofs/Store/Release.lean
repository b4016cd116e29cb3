import OrderedStore.Proofs.Store.Census
import OrderedStore.Proofs.Store.Closing

/-!
# The order of releases

An attempt to open a session acquires a logger, a block cache, the directory and the engine.
`releases_in_order` says what the journal has about the session in the end.  If the attempt
fails, the cache and the logger have been released when it returns.  If it succeeds, then
engine, cache and logger are released when the session is closed or dropped, each once and in
this order, whatever was done in between and whatever children are left; and nothing is
reported about the session from then on, whatever its children do.

Every event is one of three episodes (`Sound.episode`): an identity is used up, a session
ends, or the sessions continue, with chatter at most.  So the trace of an open session grows
by chatter and the trace of a past one does not grow, event by event and then over a run.
-/

set_option autoImplicit false

namespace OrderedStore

/-- Does the notice say that a session has let go of something? -/
def Notice.isRelease : Notice → Bool
  | .engineReleased _ | .cacheReleased _ | .loggerReleased _ => true
  | _ => false

theorem Notice.isRelease_of_isChatter {notice : Notice} (h : notice.isChatter = true) :
    notice.isRelease = false := by
  cases notice <;> first | rfl | exact absurd h Bool.false_ne_true

theorem Notice.isRelease_of_isLeftover {notice : Notice} (h : notice.isLeftover = true) :
    notice.isRelease = false := by
  cases notice <;> first | rfl | exact absurd h Bool.false_ne_true

namespace Store

variable {s s' : Store} {id : SessionId} {charter : Charter} {event : Happening}
  {events : List Happening}

/-- The event does not come from outside under the name of a session. -/
def Happening.isAnonymous : Happening → Bool
  | .act (.report event) => event.origin.isNone
  | _ => true

/-- The store after all of this has happened. -/
def after (s : Store) (events : List Happening) : Store :=
  events.foldl (fun s event => (s.happen event).1) s

/-! ## Episodes -/

/-- What is known of the sessions of a store, and of what has been reported about them. -/
structure Sound (s : Store) : Prop where
  coherent : s.roster.Coherent
  signed : s.roster.Signed
  untold : ∀ id : SessionId, s.sessions.next ≤ id.number → s.trace id = []

/-- What is reported about any session is chatter, and nothing about a closed one. -/
def Murmurs (s s' : Store) : Prop :=
  ∀ id, ∃ said : List Notice, (∀ notice ∈ said, notice.isChatter = true) ∧
    (s.isOpen id = false → said = []) ∧ s'.trace id = s.trace id ++ said

theorem Tells.murmurs {notices : List Notice} (h : s.Tells s' none notices) : s.Murmurs s' := by
  refine fun id => ⟨[], by simp, fun _ => rfl, ?_⟩
  rw [h.trace_of_ne (by simp), List.append_nil]

theorem murmurs_of_journal (h : s'.journal = s.journal) : s.Murmurs s' :=
  Tells.murmurs (.nothing h)

theorem Chatters.murmurs (h : s.Chatters s') (hsigned : s.roster.Signed) : s.Murmurs s' := by
  obtain ⟨origin, notices, htells, hchatter, hnamed⟩ := h
  refine fun id => ⟨_, ?_, fun hclosed => if_neg fun hid => ?_, htells.trace_eq id⟩
  · split
    · exact hchatter
    · simp
  · obtain ⟨other, charter, hcharter, hsession⟩ := hnamed id hid
    obtain rfl : other = id := (hsigned hcharter).symm.trans hsession
    exact Bool.false_ne_true (hclosed.symm.trans (Roster.isOpen_of_charter? hcharter))

/-- What one event does to the sessions and to the journal. -/
inductive Episode (s s' : Store) : Prop where
  /-- An identity is used up, by a session that opens or by an attempt. -/
  | begins (notices : List Notice) (next : s'.sessions.next = s.sessions.next + 1)
    (charter : ∀ id, id ≠ s.sessions.fresh → s'.roster.charter? id = s.roster.charter? id)
    (signed : ∀ charter, s'.roster.charter? s.sessions.fresh = some charter →
      charter.logger.session = s.sessions.fresh)
    (tells : s.Tells s' (some s.sessions.fresh) notices)
  /-- A session ends. -/
  | ends (id : SessionId) (notices : List Notice) (isOpen : s.isOpen id = true)
    (next : s'.sessions.next = s.sessions.next)
    (charter : ∀ id', s'.roster.charter? id' = if id' = id then none else s.roster.charter? id')
    (tells : s.Tells s' (some id) notices)
  /-- All sessions continue, and report no more than they do on the side. -/
  | continues (continues : s.roster.Continues s'.roster) (murmurs : s.Murmurs s')

theorem sound_ofVolume (v : Volume) : (ofVolume v).Sound where
  coherent := coherent_ofVolume v
  signed := fun _ _ h => by simp [Roster.charter?, ofVolume, roster] at h
  untold _ _ := rfl

theorem session_charterFor {action : Action} (h : s.charterFor action = some charter) :
    charter.logger.session = s.sessions.fresh := by
  cases action with
  | openAt path options =>
    obtain rfl := Option.some.inj h
    rfl
  | openMemory options =>
    obtain rfl := Option.some.inj h
    rfl
  | _ => simp [charterFor] at h

theorem Episode.commit (s : Store) (id : SessionId) (write : Write) :
    s.Episode (s.commit id write).1 :=
  .continues (continues_commit s id write) (murmurs_of_journal (journal_commit s id write))

theorem Episode.dropSnapshot (s : Store) (snapshot : SnapshotId) :
    s.Episode (s.dropSnapshot snapshot) := by
  refine .continues ?_ (murmurs_of_journal (journal_dropSnapshot s snapshot))
  rw [(dropSnapshot_spec s snapshot).1]
  exact Roster.continues_dropSnapshot snapshot

/-- Nothing is reported any more about a session that is past. -/
theorem Episode.past (h : s.Episode s') (hpast : s.roster.Past id) :
    s'.roster.Past id ∧ s'.trace id = s.trace id := by
  have hnone : s.roster.charter? id = none := by
    have hclosed := hpast.closed
    rw [Roster.isOpen_eq_isSome_charter?] at hclosed
    exact Option.isNone_iff_eq_none.mp (Option.isSome_eq_false_iff.mp hclosed)
  cases h with
  | begins notices hnext hother hfresh htells =>
    have hne : id ≠ s.sessions.fresh := by
      rintro rfl
      exact Nat.lt_irrefl _ hpast.given
    refine ⟨⟨?_, ?_⟩, htells.trace_of_ne fun heq => hne (Option.some.inj heq).symm⟩
    · rw [Roster.isOpen_eq_isSome_charter?, hother id hne, hnone]
      rfl
    · exact Nat.lt_of_lt_of_eq (Nat.lt_succ_of_lt hpast.given) hnext.symm
  | ends ended notices hopen hnext hother htells =>
    have hne : ended ≠ id := by
      rintro rfl
      exact Bool.false_ne_true (hpast.closed.symm.trans hopen)
    refine ⟨⟨?_, Nat.lt_of_lt_of_eq hpast.given hnext.symm⟩,
      htells.trace_of_ne fun heq => hne (Option.some.inj heq)⟩
    rw [Roster.isOpen_eq_isSome_charter?, hother, if_neg hne.symm, hnone]
    rfl
  | continues hcontinues hmurmurs =>
    obtain ⟨said, _, hsilent, htrace⟩ := hmurmurs id
    refine ⟨⟨(hcontinues.isOpen id).trans hpast.closed,
      Nat.lt_of_lt_of_eq hpast.given hcontinues.next.symm⟩, ?_⟩
    rw [htrace, hsilent hpast.closed, List.append_nil]

namespace Sound

theorem number_lt_of_isOpen (h : s.Sound) (hopen : s.isOpen id = true) :
    id.number < s.sessions.next := by
  obtain ⟨session, hsession⟩ := isOpen_iff_session.mp hopen
  exact h.coherent.sessions.number_lt hsession

theorem number_lt (h : s.Sound) (hcharter : s.roster.charter? id = some charter) :
    id.number < s.sessions.next :=
  h.number_lt_of_isOpen (Roster.isOpen_of_charter? hcharter)

theorem episode_skip (h : s.Sound) (hroster : s'.roster = s.roster.skipSession)
    {notices : List Notice} (htells : s.Tells s' (some s.sessions.fresh) notices) :
    s.Episode s' := by
  have hcharter : ∀ id, s'.roster.charter? id = s.roster.charter? id := by
    intro id
    rw [hroster]
    rfl
  refine .begins notices (congrArg (fun r => r.sessions.next) hroster) (fun id _ => hcharter id)
    (fun charter hfresh => ?_) htells
  rw [hcharter] at hfresh
  exact absurd (h.number_lt hfresh) (Nat.lt_irrefl _)

theorem episode_attempt (h : s.Sound) {action : Action}
    (hcharter : s.charterFor action = some charter) : s.Episode (s.perform action).1 := by
  have hattempt := attempt hcharter
  generalize (s.perform action).2 = answer at hattempt
  cases hattempt with
  | opened session existing rebuilt _ hsession hroster _ htells =>
    refine .begins _ (congrArg (fun r => r.sessions.next) hroster) (fun id hne => ?_)
      (fun other hother => ?_) htells
    · rw [hroster, Roster.charter?_openSession]
      exact if_neg hne
    · rw [hroster, Roster.charter?_openSession] at hother
      obtain rfl : session.charter = other := Option.some.inj ((if_pos rfl).symm.trans hother)
      rw [hsession]
      exact session_charterFor hcharter
  | failed e rebuilt hroster _ htells => exact h.episode_skip hroster htells

theorem episode_end (h : s.Sound) (hroster : s'.roster = s.roster.endSession id)
    (hclosed : s.sessions.get? id = none → s' = s)
    (htells : ∀ session, s.sessions.get? id = some session →
      ∃ notices, s.Tells s' (some session.logger.session) notices) : s.Episode s' := by
  cases hsession : s.sessions.get? id with
  | none =>
    rw [hclosed hsession]
    exact .continues (.refl _) (murmurs_of_journal rfl)
  | some session =>
    obtain ⟨notices, hnotices⟩ := htells session hsession
    have hsigned : session.logger.session = id := h.signed (Roster.charter?_of_session hsession)
    rw [hsigned] at hnotices
    refine .ends id notices (isOpen_iff_session.mpr ⟨session, hsession⟩) ?_ (fun id' => ?_) hnotices
    · exact (congrArg (fun r => r.sessions.next) hroster).trans (Roster.next_endSession id)
    · rw [hroster, Roster.charter?_endSession]

/-- Every event is an episode. -/
theorem episode (h : s.Sound) (hevent : event.isAnonymous = true) :
    s.Episode (s.happen event).1 := by
  cases event with
  | files v => exact .continues (.refl _) (murmurs_of_journal rfl)
  | unavailable id e =>
    show s.Episode (s.unavailable id e).1
    unfold unavailable
    split
    · refine .continues ?_ ((chatters_attach s id _).murmurs h.signed)
      show s.roster.Continues (s.attach id (.error e)).1.roster
      rw [(attach_spec s id (.error e)).1]
      exact Roster.continues_addIterator id _
    · exact .continues (.refl _) (murmurs_of_journal rfl)
  | act action =>
    show s.Episode (s.perform action).1
    cases action with
    | openAt path options =>
      exact h.episode_attempt (show s.charterFor (.openAt path options) = some _ from rfl)
    | openMemory options =>
      exact h.episode_attempt (show s.charterFor (.openMemory options) = some _ from rfl)
    | close id =>
      refine h.episode_end (roster_close s id) (fun hnone => ?_) fun session hsession => ?_
      · show s.close id = s
        simp only [close, hnone]
      · obtain ⟨left, _, htells⟩ := tells_close_left hsession
        exact ⟨_, htells⟩
    | discard id =>
      refine h.episode_end (roster_discard s id) (fun hnone => ?_) fun session hsession => ?_
      · show s.discard id = s
        simp only [discard, hnone]
      · obtain ⟨left, _, htells⟩ := tells_discard_left hsession
        exact ⟨_, htells⟩
    | put id key value sync => exact .commit s id _
    | putOption id key value sync => exact .commit s id _
    | delete id key sync => exact .commit s id _
    | write id batch sync => exact .commit s id _
    | get id snapshot key =>
      exact .continues (continues_get s id snapshot key)
        (murmurs_of_journal (journal_get s id snapshot key))
    | property id name =>
      exact .continues (continues_property s id name)
        ((chatters_property s id name).murmurs h.signed)
    | snapshot id =>
      exact .continues (continues_snapshot s id) (murmurs_of_journal (journal_snapshot s id))
    | releaseSnapshot id snapshot => exact .dropSnapshot s snapshot
    | dropSnapshot snapshot => exact .dropSnapshot s snapshot
    | iterate id snapshot =>
      exact .continues (continues_iterate s id snapshot)
        ((chatters_iterate s id snapshot).murmurs h.signed)
    | move iterator m =>
      exact .continues (continues_move s iterator m) ((chatters_move s iterator m).murmurs h.signed)
    | dropIterator iterator =>
      refine .continues ?_ (murmurs_of_journal (journal_dropIterator s iterator))
      show s.roster.Continues (s.dropIterator iterator).roster
      rw [(dropIterator_spec s iterator).1]
      exact Roster.continues_dropIterator iterator
    | destroy path =>
      obtain ⟨notices, _, htells⟩ := tells_destroy s path
      refine .continues ?_ htells.murmurs
      show s.roster.Continues (s.destroy path).1.roster
      rw [(destroy_spec s path).1]
      exact .refl _
    | repair path =>
      obtain ⟨notices, _, htells⟩ := tells_repair s path
      exact h.episode_skip (repair_spec s path).1 htells
    | listen filter => exact .continues (.refl _) (murmurs_of_journal rfl)
    | sway verdicts => exact .continues (.refl _) (murmurs_of_journal rfl)
    | report event =>
      have horigin : event.origin = none := Option.isNone_iff_eq_none.mp hevent
      exact .continues (.refl _) (Tells.murmurs (horigin ▸ Tells.record s event))

/-! ### Steps -/

theorem signed_step (h : s.Sound) (hepisode : s.Episode s') : s'.roster.Signed := by
  intro id charter hcharter
  cases hepisode with
  | begins notices hnext hother hfresh htells =>
    by_cases heq : id = s.sessions.fresh
    · subst heq
      exact hfresh charter hcharter
    · rw [hother id heq] at hcharter
      exact h.signed hcharter
  | ends ended notices hopen hnext hother htells =>
    rw [hother] at hcharter
    split at hcharter
    · simp at hcharter
    · exact h.signed hcharter
  | continues hcontinues hmurmurs => exact h.signed.congr hcontinues hcharter

theorem untold_step (h : s.Sound) (hepisode : s.Episode s')
    (hid : s'.sessions.next ≤ id.number) : s'.trace id = [] := by
  cases hepisode with
  | begins notices hnext hother hfresh htells =>
    rw [hnext] at hid
    rw [htells.trace_of_ne, h.untold id (Nat.le_of_succ_le hid)]
    intro heq
    obtain rfl := Option.some.inj heq
    exact Nat.lt_irrefl _ hid
  | ends ended notices hopen hnext hother htells =>
    rw [hnext] at hid
    rw [htells.trace_of_ne, h.untold id hid]
    intro heq
    obtain rfl := Option.some.inj heq
    exact Nat.not_lt.mpr hid (h.number_lt_of_isOpen hopen)
  | continues hcontinues hmurmurs =>
    have hnext : s.sessions.next ≤ id.number :=
      Nat.le_trans (Nat.le_of_eq hcontinues.next.symm) hid
    -- Nobody but an open session chatters, and all of those come before `id`.
    have hclosed : s.isOpen id = false :=
      Bool.eq_false_iff.mpr fun hopen => Nat.not_lt.mpr hnext (h.number_lt_of_isOpen hopen)
    obtain ⟨said, _, hsilent, htrace⟩ := hmurmurs id
    rw [htrace, hsilent hclosed, h.untold id hnext, List.append_nil]

theorem step (h : s.Sound) (hepisode : s.Episode s') (hcoherent : s'.roster.Coherent) :
    s'.Sound :=
  ⟨hcoherent, h.signed_step hepisode, fun _ => h.untold_step hepisode⟩

/-- An open session keeps its charter and chatters at most, or it ends. -/
theorem open_step (h : s.Sound) (hepisode : s.Episode s')
    (hcharter : s.roster.charter? id = some charter) :
    s'.roster.Past id ∨
      s'.roster.charter? id = some charter ∧
        ∃ said : List Notice, (∀ notice ∈ said, notice.isChatter = true) ∧
          s'.trace id = s.trace id ++ said := by
  have hlt := h.number_lt hcharter
  cases hepisode with
  | begins notices hnext hother hfresh htells =>
    have hne : id ≠ s.sessions.fresh := by
      rintro rfl
      exact Nat.lt_irrefl _ hlt
    refine Or.inr ⟨(hother id hne).trans hcharter, [], by simp, ?_⟩
    rw [htells.trace_of_ne fun heq => hne (Option.some.inj heq).symm, List.append_nil]
  | ends ended notices hopen hnext hother htells =>
    by_cases heq : id = ended
    · refine Or.inl ⟨?_, Nat.lt_of_lt_of_eq hlt hnext.symm⟩
      rw [Roster.isOpen_eq_isSome_charter?, hother, if_pos heq]
      rfl
    · refine Or.inr ⟨?_, [], by simp, ?_⟩
      · rw [hother, if_neg heq]
        exact hcharter
      · rw [htells.trace_of_ne fun hended => heq (Option.some.inj hended).symm, List.append_nil]
  | continues hcontinues hmurmurs =>
    obtain ⟨said, hchatter, _, htrace⟩ := hmurmurs id
    exact Or.inr ⟨(hcontinues.charter id).trans hcharter, said, hchatter, htrace⟩

/-! ### Runs -/

theorem happen (h : s.Sound) (hevent : event.isAnonymous = true) : (s.happen event).1.Sound :=
  h.step (h.episode hevent) (coherent_happen h.coherent event)

theorem after (h : s.Sound) (hevents : ∀ event ∈ events, event.isAnonymous = true) :
    (s.after events).Sound := by
  induction events generalizing s with
  | nil => exact h
  | cons event rest ih =>
    obtain ⟨hevent, hrest⟩ := List.forall_mem_cons.mp hevents
    exact ih (h.happen hevent) hrest

theorem past_after (h : s.Sound) (hevents : ∀ event ∈ events, event.isAnonymous = true)
    (hpast : s.roster.Past id) :
    (s.after events).roster.Past id ∧ (s.after events).trace id = s.trace id := by
  induction events generalizing s with
  | nil => exact ⟨hpast, rfl⟩
  | cons event rest ih =>
    obtain ⟨hevent, hrest⟩ := List.forall_mem_cons.mp hevents
    obtain ⟨hpast', htrace⟩ := (h.episode hevent).past hpast
    obtain ⟨hpast'', htrace'⟩ := ih (h.happen hevent) hrest hpast'
    exact ⟨hpast'', htrace'.trans htrace⟩

theorem open_after (h : s.Sound) (hevents : ∀ event ∈ events, event.isAnonymous = true)
    (hcharter : s.roster.charter? id = some charter) (hopen : (s.after events).isOpen id = true) :
    (s.after events).roster.charter? id = some charter ∧
      ∃ said : List Notice, (∀ notice ∈ said, notice.isChatter = true) ∧
        (s.after events).trace id = s.trace id ++ said := by
  induction events generalizing s with
  | nil => exact ⟨hcharter, [], by simp, (List.append_nil _).symm⟩
  | cons event rest ih =>
    obtain ⟨hevent, hrest⟩ := List.forall_mem_cons.mp hevents
    have hsound := h.happen hevent
    rcases h.open_step (h.episode hevent) hcharter with hpast | ⟨hcharter', said, hsaid, htrace⟩
    · have hclosed := (hsound.past_after hrest hpast).1.closed
      exact absurd (hclosed.symm.trans hopen) Bool.false_ne_true
    · obtain ⟨hkept, more, hmore, htrace'⟩ := ih hsound hrest hcharter' hopen
      refine ⟨hkept, said ++ more, fun notice hmem => ?_, ?_⟩
      · exact (List.mem_append.mp hmem).elim (hsaid notice) (hmore notice)
      · exact htrace'.trans (by rw [htrace, List.append_assoc])

end Sound

/-! ## The order of releases -/

/-- A session has ended, with all that was reported about it. -/
structure Released (s : Store) (charter : Charter) (id : SessionId) : Prop where
  /-- It was opened, said something on the side, told what it had left and let go of what it had. -/
  story : ∃ (existing rebuilt : Bool) (said left : List Notice),
    (rebuilt = true → charter.checks = true) ∧ (∀ notice ∈ said, notice.isChatter = true) ∧
      (∀ notice ∈ left, notice.isLeftover = true) ∧
      s.trace id = charter.opening existing rebuilt ++ (said ++ (left ++ charter.release))
  /-- The releases are these, in this order. -/
  releases : ((s.trace id).filter Notice.isRelease).map Notice.message =
    "engine handle released" ::
      ((if 0 < charter.options.cacheSize then ["block cache released"] else []) ++
        ["logger released"])
  /-- Nothing is reported about it any more, whatever happens. -/
  silent : ∀ later : List Happening, (∀ event ∈ later, event.isAnonymous = true) →
    (s.after later).trace id = s.trace id

/-- A session has not come about, with all that was reported about it. -/
structure Abandoned (s : Store) (charter : Charter) (id : SessionId) : Prop where
  /-- What was acquired has been released, and no engine has.  In between stands a warning if a
  check that was asked for has rebuilt the engine file before the attempt failed. -/
  story : ∃ rebuilt : Bool, (rebuilt = true → charter.checks = true) ∧
    s.trace id = charter.failure rebuilt ∧
    (s.trace id).map Notice.message =
      (if 0 < charter.options.cacheSize then ["block cache allocated"] else []) ++
        ((if rebuilt then ["integrity check repaired the engine file"] else []) ++
          ((if 0 < charter.options.cacheSize then ["block cache released"] else []) ++
            ["logger released"]))
  silent : ∀ later : List Happening, (∀ event ∈ later, event.isAnonymous = true) →
    (s.after later).trace id = s.trace id

/-- What an attempt to open a session comes to in the end. -/
structure Settles (s : Store) (action : Action) (charter : Charter) : Prop where
  /-- A failed attempt has released everything when it returns. -/
  failed : ∀ e, (s.perform action).2 = .opened (.error e) →
    (s.perform action).1.Abandoned charter s.sessions.fresh
  /-- A session that is closed, at any time after its opening, releases what it has. -/
  closed : ∀ id (meanwhile : List Happening), (s.perform action).2 = .opened (.ok id) →
    (∀ event ∈ meanwhile, event.isAnonymous = true) →
      ((s.perform action).1.after meanwhile).isOpen id = true →
        (((s.perform action).1.after meanwhile).close id).Released charter id
  /-- So does a session that is dropped. -/
  dropped : ∀ id (meanwhile : List Happening), (s.perform action).2 = .opened (.ok id) →
    (∀ event ∈ meanwhile, event.isAnonymous = true) →
      ((s.perform action).1.after meanwhile).isOpen id = true →
        (((s.perform action).1.after meanwhile).discard id).Released charter id

theorem filter_isRelease_eq_nil {notices : List Notice}
    (h : ∀ notice ∈ notices, notice.isRelease = false) : notices.filter Notice.isRelease = [] :=
  List.filter_eq_nil_iff.mpr fun notice hmem => Bool.eq_false_iff.mp (h notice hmem)

theorem filter_isRelease_opening (charter : Charter) (existing rebuilt : Bool) :
    (charter.opening existing rebuilt).filter Notice.isRelease = [] := by
  unfold Charter.opening Options.allocation warning
  cases charter.options.cache <;> cases charter.memory <;> cases rebuilt <;> rfl

theorem map_message_releases {existing rebuilt : Bool} {said left : List Notice}
    (hsaid : ∀ notice ∈ said, notice.isChatter = true)
    (hleft : ∀ notice ∈ left, notice.isLeftover = true) :
    ((charter.opening existing rebuilt ++ (said ++ (left ++ charter.release))).filter
        Notice.isRelease).map Notice.message =
      "engine handle released" ::
        ((if 0 < charter.options.cacheSize then ["block cache released"] else []) ++
          ["logger released"]) := by
  rw [List.filter_append, List.filter_append, List.filter_append, filter_isRelease_opening,
    filter_isRelease_eq_nil fun notice hmem => Notice.isRelease_of_isChatter (hsaid notice hmem),
    filter_isRelease_eq_nil fun notice hmem => Notice.isRelease_of_isLeftover (hleft notice hmem)]
  simp only [List.nil_append, Charter.release, Options.deallocation, Options.cache]
  split <;> rfl

theorem map_message_failure (charter : Charter) (rebuilt : Bool) :
    (charter.failure rebuilt).map Notice.message =
      (if 0 < charter.options.cacheSize then ["block cache allocated"] else []) ++
        ((if rebuilt then ["integrity check repaired the engine file"] else []) ++
          ((if 0 < charter.options.cacheSize then ["block cache released"] else []) ++
            ["logger released"])) := by
  simp only [Charter.failure, Options.allocation, Options.deallocation, Options.cache, warning]
  split <;> cases rebuilt <;> rfl

/-- The end of a session that has only chattered since it was opened. -/
theorem Sound.released (h : s.Sound) (hsound : s'.Sound)
    (hcharter : s.roster.charter? id = some charter) {existing rebuilt : Bool}
    (hchecks : rebuilt = true → charter.checks = true) {said left : List Notice}
    (hsaid : ∀ notice ∈ said, notice.isChatter = true)
    (htrace : s.trace id = charter.opening existing rebuilt ++ said)
    (hleft : ∀ notice ∈ left, notice.isLeftover = true)
    (htells : s.Tells s' (some charter.logger.session) (left ++ charter.release))
    (hroster : s'.roster = s.roster.endSession id) : s'.Released charter id := by
  have hstory : s'.trace id =
      charter.opening existing rebuilt ++ (said ++ (left ++ charter.release)) := by
    rw [h.signed hcharter] at htells
    rw [htells.trace_of_eq, htrace, List.append_assoc]
  have hpast : s'.roster.Past id := by
    refine ⟨?_, ?_⟩
    · rw [hroster, Roster.isOpen_endSession, if_pos rfl]
    · rw [hroster, Roster.next_endSession]
      exact h.number_lt hcharter
  refine ⟨⟨existing, rebuilt, said, left, hchecks, hsaid, hleft, hstory⟩, ?_,
    fun later hlater => (hsound.past_after hlater hpast).2⟩
  rw [hstory]
  exact map_message_releases hsaid hleft

theorem Sound.opened (h : s.Sound) {action : Action}
    (hcharter : s.charterFor action = some charter)
    (hanswer : (s.perform action).2 = .opened (.ok id)) :
    (s.perform action).1.roster.charter? id = some charter ∧
      ∃ existing rebuilt, (rebuilt = true → charter.checks = true) ∧
        (s.perform action).1.trace id = charter.opening existing rebuilt := by
  have hattempt := attempt hcharter
  rw [hanswer] at hattempt
  cases hattempt with
  | opened session existing rebuilt hfresh hsession hroster hchecks htells =>
    subst hfresh
    refine ⟨?_, existing, rebuilt, hchecks, ?_⟩
    · rw [hroster, Roster.charter?_openSession, hsession]
      exact if_pos rfl
    · rw [htells.trace_of_eq, h.untold _ (Nat.le_refl _), List.nil_append]

theorem Sound.abandoned (h : s.Sound) {action : Action}
    (hcharter : s.charterFor action = some charter) {e : Error}
    (hanswer : (s.perform action).2 = .opened (.error e)) :
    (s.perform action).1.Abandoned charter s.sessions.fresh := by
  have hsound := h.step (h.episode_attempt hcharter) (coherent_perform h.coherent action)
  have hattempt := attempt hcharter
  rw [hanswer] at hattempt
  cases hattempt with
  | failed _ rebuilt hroster hchecks htells =>
    have hstory : (s.perform action).1.trace s.sessions.fresh = charter.failure rebuilt := by
      rw [htells.trace_of_eq, h.untold _ (Nat.le_refl _), List.nil_append]
    have hpast : (s.perform action).1.roster.Past s.sessions.fresh := by
      rw [hroster]
      exact ⟨Option.isSome_eq_false_iff.mpr
        (Option.isNone_iff_eq_none.mpr h.coherent.sessions.get?_fresh), Nat.lt_succ_self _⟩
    refine ⟨⟨rebuilt, hchecks, hstory, ?_⟩,
      fun later hlater => (hsound.past_after hlater hpast).2⟩
    rw [hstory]
    exact map_message_failure charter rebuilt

theorem Sound.settles (h : s.Sound) {action : Action}
    (hcharter : s.charterFor action = some charter) : s.Settles action charter := by
  have hsound := h.step (h.episode_attempt hcharter) (coherent_perform h.coherent action)
  refine ⟨fun e => h.abandoned hcharter, fun id meanwhile hanswer hmeanwhile hopen => ?_,
    fun id meanwhile hanswer hmeanwhile hopen => ?_⟩
  all_goals
    obtain ⟨hgiven, existing, rebuilt, hchecks, hbegun⟩ := h.opened hcharter hanswer
    obtain ⟨hkept, said, hsaid, htrace⟩ := hsound.open_after hmeanwhile hgiven hopen
    obtain ⟨session, hsession, rfl⟩ := Option.map_eq_some_iff.mp hkept
    have hlived := hsound.after hmeanwhile
    rw [hbegun] at htrace
  · have hclosed := hlived.happen (show Happening.isAnonymous (.act (.close id)) = true from rfl)
    obtain ⟨left, hleft, htells⟩ := tells_close_left hsession
    exact hlived.released hclosed hkept hchecks hsaid htrace hleft htells (roster_close _ id)
  · have hdropped := hlived.happen (show Happening.isAnonymous (.act (.discard id)) = true from rfl)
    obtain ⟨left, hleft, htells⟩ := tells_discard_left hsession
    exact hlived.released hdropped hkept hchecks hsaid htrace hleft htells (roster_discard _ id)

/-- In any state that a store can come to, an attempt to open a session that fails has released
what it had acquired, and a session that is closed or dropped releases the engine, the cache and
the logger, in this order. -/
theorem releases_in_order {v : Volume} {before : List Happening}
    (hbefore : ∀ event ∈ before, event.isAnonymous = true) {action : Action}
    (hcharter : ((ofVolume v).after before).charterFor action = some charter) :
    ((ofVolume v).after before).Settles action charter :=
  ((sound_ofVolume v).after hbefore).settles hcharter

/-- An engine that rebuilds every file that it checks, and then finds the disk full. -/
def exhausted : Verdicts where
  refusal
    | .transact _ _ .commit => some (.io "No space left on device (os error 28)")
    | _ => none
  finding _ := .rebuilt .empty
  plain {question fault} h := by
    split at h
    · rw [← Option.some.inj h]
      decide
    · simp at h

/-- The theorem beside a database in memory: on one on disk that is closed while it has an
iterator, on one that is not there, and on one that cannot be set up again after a check has
rebuilt it; and on one in memory that cannot be set up. -/
theorem releases_in_order_on_disk :
    let s := (ofVolume .empty).after [.act (.openMemory {})]
    let t := (ofVolume .empty).after [.act (.openMemory {}), .act (.sway exhausted)]
    let options : Options := { cacheSize := 64 }
    let unmade : Options := { createIfMissing := false, cacheSize := 64 }
    let checked : Options := { paranoidChecks := true, cacheSize := 64 }
    (((s.perform (.openAt "db" options)).1.after [.act (.iterate ⟨1⟩ none)]).close ⟨1⟩).Released
        ⟨⟨⟨1⟩, "db", false⟩, options, false⟩ ⟨1⟩ ∧
      (s.perform (.openAt "db" unmade)).1.Abandoned ⟨⟨⟨1⟩, "db", false⟩, unmade, false⟩ ⟨1⟩ ∧
      ((t.perform (.openAt "db" checked)).1.Abandoned ⟨⟨⟨1⟩, "db", false⟩, checked, false⟩ ⟨1⟩ ∧
        (t.perform (.openAt "db" checked)).1.trace ⟨1⟩ =
          [.cacheAllocated 64, .integrityRepaired, .cacheReleased 64, .loggerReleased "db"]) ∧
      (t.perform (.openMemory options)).1.Abandoned ⟨⟨⟨1⟩, ":memory:", false⟩, options, true⟩
        ⟨1⟩ := by
  have hgiven : (((ofVolume .empty).after [.act (.openMemory {})]).perform
      (.openAt "db" { cacheSize := 64 })).2 = .opened (.ok ⟨1⟩) := rfl
  obtain ⟨e, hmissing⟩ : ∃ e, (((ofVolume .empty).after [.act (.openMemory {})]).perform
      (.openAt "db" { createIfMissing := false, cacheSize := 64 })).2 = .opened (.error e) :=
    ⟨_, rfl⟩
  obtain ⟨e', hrebuilt⟩ : ∃ e, (((ofVolume .empty).after
      [.act (.openMemory {}), .act (.sway exhausted)]).perform
        (.openAt "db" { paranoidChecks := true, cacheSize := 64 })).2 = .opened (.error e) :=
    ⟨_, rfl⟩
  obtain ⟨e'', hrefused⟩ : ∃ e, (((ofVolume .empty).after
      [.act (.openMemory {}), .act (.sway exhausted)]).perform
        (.openMemory { cacheSize := 64 })).2 = .opened (.error e) :=
    ⟨_, rfl⟩
  intro s t options unmade checked
  have hbefore : ∀ event ∈ [Happening.act (.openMemory {})], event.isAnonymous = true := by
    simp [Happening.isAnonymous]
  have hswayed : ∀ event ∈ [Happening.act (.openMemory {}), .act (.sway exhausted)],
      event.isAnonymous = true := by
    simp [Happening.isAnonymous]
  have hopened := @releases_in_order ⟨⟨⟨1⟩, "db", false⟩, options, false⟩ .empty _ hbefore
    (.openAt "db" options) rfl
  have hfailed := @releases_in_order ⟨⟨⟨1⟩, "db", false⟩, unmade, false⟩ .empty _ hbefore
    (.openAt "db" unmade) rfl
  have hchecked := @releases_in_order ⟨⟨⟨1⟩, "db", false⟩, checked, false⟩ .empty _ hswayed
    (.openAt "db" checked) rfl
  have hunset := @releases_in_order ⟨⟨⟨1⟩, ":memory:", false⟩, options, true⟩ .empty _ hswayed
    (.openMemory options) rfl
  have hopen : ((s.perform (.openAt "db" options)).1.after [.act (.iterate ⟨1⟩ none)]).isOpen
      ⟨1⟩ = true := by decide +kernel
  exact ⟨hopened.closed ⟨1⟩ _ hgiven (by simp [Happening.isAnonymous]) hopen,
    hfailed.failed e hmissing, ⟨hchecked.failed e' hrebuilt, by decide +kernel⟩,
    hunset.failed e'' hrefused⟩

/-- A session that is closed with an iterator, which is used once more. -/
example :
    ((ofVolume .empty).after [.act (.openMemory { cacheSize := 64 }), .act (.iterate ⟨0⟩ none),
        .act (.close ⟨0⟩), .act (.move ⟨0⟩ .first), .act (.dropIterator ⟨0⟩)]).trace ⟨0⟩ =
      [.cacheAllocated 64, .databaseOpened, .closingWithChildren 0 1, .viewsRevoked 1,
        .closingSession 64, .engineReleased true, .cacheReleased 64,
        .loggerReleased ":memory:"] := by
  decide +kernel

end Store

end OrderedStore
