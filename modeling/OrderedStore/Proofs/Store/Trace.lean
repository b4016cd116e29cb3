import OrderedStore.Proofs.Store.Charter

/-!
# What is reported about a session

The trace of a session is what the journal has about it.  `Store.Tells` says what a part of
an operation adds to the journal, all of it about one session or about none, and composes
like the operations do: the notices of two steps in a row are put one after the other.

The lemmas of this module give the notices of opening and of closing word by word, in the
order of the resources; of everything else that a session says there is only that it is
chatter, which is about no resource.
-/

set_option autoImplicit false

namespace OrderedStore

/-- Does the notice say that something was left when a session closed? -/
def Notice.isLeftover : Notice → Bool
  | .closingWithChildren .. | .viewsRevoked _ | .closeDeferred .. => true
  | _ => false

/-- Does an open session say so on the side? -/
def Notice.isChatter : Notice → Bool
  | .iteratorUnavailable _ | .iteratorDegraded _ | .propertyUnavailable .. => true
  | _ => false

namespace Options

/-- What is reported when the block cache is allocated, if there is one. -/
def allocation (options : Options) : List Notice := (options.cache.map .cacheAllocated).toList

/-- What is reported when the block cache is released, if there is one. -/
def deallocation (options : Options) : List Notice := (options.cache.map .cacheReleased).toList

end Options

/-- What is reported of a check that has rebuilt the engine file, or has not. -/
def warning (rebuilt : Bool) : List Notice := if rebuilt then [.integrityRepaired] else []

namespace Charter

/-- Can the engine file be rebuilt when a session is opened like this? -/
def checks (charter : Charter) : Bool := charter.options.paranoidChecks && !charter.memory

/-- What is reported when the opening succeeds. -/
def opening (charter : Charter) (existing rebuilt : Bool) : List Notice :=
  charter.options.allocation ++ (warning rebuilt ++
    ((if charter.memory then [] else [.engineOpened existing]) ++ [.databaseOpened]))

/-- What is reported when the opening fails. -/
def failure (charter : Charter) (rebuilt : Bool) : List Notice :=
  charter.options.allocation ++ (warning rebuilt ++
    (charter.options.deallocation ++ [.loggerReleased charter.logger.name]))

/-- What is reported when the session lets go of what it has. -/
def release (charter : Charter) : List Notice :=
  [.closingSession (charter.options.cache.getD 0), .engineReleased charter.memory] ++
    (charter.options.deallocation ++ [.loggerReleased charter.logger.name])

end Charter

namespace Store

/-- What has been reported about a session, oldest first. -/
def trace (s : Store) (id : SessionId) : List Notice :=
  s.journal.filterMap fun event => if event.origin = some id then some event.notice else none

/-- The notices, all about one session or about none, have been added to the journal. -/
def Tells (s s' : Store) (origin : Option SessionId) (notices : List Notice) : Prop :=
  ∃ events : List Event, s'.journal = s.journal ++ events ∧ events.map Event.notice = notices ∧
    ∀ event ∈ events, event.origin = origin

variable {s s' s'' : Store} {id : SessionId} {origin : Option SessionId}
  {notices notices' : List Notice}

namespace Tells

theorem nothing (hjournal : s'.journal = s.journal) : s.Tells s' origin [] :=
  ⟨[], by rw [hjournal, List.append_nil], rfl, fun _ hmem => absurd hmem List.not_mem_nil⟩

theorem refl (s : Store) (origin : Option SessionId) : s.Tells s origin [] := nothing rfl

theorem trans (h : s.Tells s' origin notices) (h' : s'.Tells s'' origin notices') :
    s.Tells s'' origin (notices ++ notices') := by
  obtain ⟨events, hjournal, rfl, horigin⟩ := h
  obtain ⟨events', hjournal', rfl, horigin'⟩ := h'
  refine ⟨events ++ events', ?_, List.map_append, fun event hmem => ?_⟩
  · rw [hjournal', hjournal, List.append_assoc]
  · rcases List.mem_append.mp hmem with hmem | hmem
    · exact horigin event hmem
    · exact horigin' event hmem

theorem record (s : Store) (event : Event) :
    s.Tells (s.record event) event.origin [event.notice] :=
  ⟨[event], rfl, rfl, fun _ hmem => congrArg Event.origin (List.mem_singleton.mp hmem)⟩

theorem say (s : Store) (logger : Logger) (notice : Notice) :
    s.Tells (s.say logger notice) (some logger.session) [notice] := record s _

theorem note (s : Store) (logger : Logger) (notice : Notice) :
    s.Tells (s.note logger notice) (some logger.session) [notice] := record s _

/-- What is added to the trace of a session. -/
theorem trace_eq (h : s.Tells s' origin notices) (id : SessionId) :
    s'.trace id = s.trace id ++ if origin = some id then notices else [] := by
  obtain ⟨events, hjournal, rfl, horigin⟩ := h
  unfold trace
  rw [hjournal, List.filterMap_append]
  congr 1
  split
  · rename_i heq
    rw [← List.filterMap_eq_map]
    exact List.filterMap_congr fun event hmem => if_pos ((horigin event hmem).trans heq)
  · rename_i hne
    exact List.filterMap_eq_nil_iff.mpr fun event hmem =>
      if_neg fun heq => hne ((horigin event hmem).symm.trans heq)

theorem trace_of_ne (h : s.Tells s' origin notices) (hne : origin ≠ some id) :
    s'.trace id = s.trace id := by
  rw [h.trace_eq, if_neg hne, List.append_nil]

theorem trace_of_eq (h : s.Tells s' (some id) notices) : s'.trace id = s.trace id ++ notices := by
  rw [h.trace_eq, if_pos rfl]

end Tells

/-! ## The cache and the logger -/

theorem tells_allocateCache (s : Store) (logger : Logger) (options : Options) :
    s.Tells (s.allocateCache logger options) (some logger.session) options.allocation := by
  unfold allocateCache Options.allocation
  cases options.cache with
  | none => exact .refl s _
  | some capacity => exact .note s logger _

theorem tells_releaseCache (s : Store) (logger : Logger) (options : Options) :
    s.Tells (s.releaseCache logger options) (some logger.session) options.deallocation := by
  unfold releaseCache Options.deallocation
  cases options.cache with
  | none => exact .refl s _
  | some capacity => exact .note s logger _

theorem tells_releaseLogger (s : Store) (logger : Logger) :
    s.Tells (s.releaseLogger logger) (some logger.session) [.loggerReleased logger.name] :=
  .note s logger _

theorem tells_warnRebuilt (s : Store) (logger : Logger) (rebuilt : Bool) :
    s.Tells (s.warnRebuilt logger rebuilt) (some logger.session) (warning rebuilt) := by
  unfold warnRebuilt warning
  cases rebuilt with
  | false => exact .refl s _
  | true => exact .say s logger _

theorem tells_abandon (s : Store) (logger : Logger) (options : Options) :
    s.Tells (s.abandon logger options) (some logger.session)
      (options.deallocation ++ [.loggerReleased logger.name]) :=
  (tells_releaseCache s logger options).trans (tells_releaseLogger _ logger)

/-! ## Opening -/

/-- What a session would be opened with by an action. -/
def charterFor (s : Store) : Action → Option Charter
  | .openAt path options => some ⟨s.logger path, options, false⟩
  | .openMemory options => some ⟨s.logger memoryName, options, true⟩
  | _ => none

/-- What comes of an attempt to open a session: the session, or nothing but a used identity.
A failed attempt has released the cache and the logger when it returns, and no engine. -/
inductive Attempt (s s' : Store) (charter : Charter) : Answer → Prop where
  | opened {id : SessionId} (session : Session) (existing rebuilt : Bool)
    (fresh : id = s.sessions.fresh) (charter_eq : session.charter = charter)
    (roster : s'.roster = s.roster.openSession session)
    (checks : rebuilt = true → charter.checks = true)
    (tells : s.Tells s' (some s.sessions.fresh) (charter.opening existing rebuilt)) :
    Attempt s s' charter (.opened (.ok id))
  | failed (e : Error) (rebuilt : Bool) (roster : s'.roster = s.roster.skipSession)
    (checks : rebuilt = true → charter.checks = true)
    (tells : s.Tells s' (some s.sessions.fresh) (charter.failure rebuilt)) :
    Attempt s s' charter (.opened (.error e))

theorem attempt_openAt (s : Store) (path : String) (options : Options) :
    s.Attempt (s.openAt path options).1 ⟨s.logger path, options, false⟩
      (.opened (s.openAt path options).2) := by
  -- The journal knows nothing of the volume.
  have hallocated : ∀ v, s.Tells { s.allocateCache (s.logger path) options with volume := v }
      (some (s.logger path).session) options.allocation :=
    fun _ => tells_allocateCache s (s.logger path) options
  obtain ⟨hroster, _⟩ := reported_allocateCache s (s.logger path) options
  have hfailed : ∀ v e rebuilt, (rebuilt = true → options.paranoidChecks = true) → s.Attempt
      (({ s.allocateCache (s.logger path) options with volume := v }.warnRebuilt (s.logger path)
        rebuilt).abandon (s.logger path) options) ⟨s.logger path, options, false⟩
        (.opened (.error e)) := by
    intro v e rebuilt hchecks
    refine .failed e rebuilt ?_ (fun h => by simp [Charter.checks, hchecks h])
      ((hallocated _).trans ((tells_warnRebuilt _ (s.logger path) rebuilt).trans
        (tells_abandon _ (s.logger path) options)))
    rw [roster_abandon, (reported_warnRebuilt _ _ _).roster]
    exact congrArg Roster.skipSession hroster
  unfold openAt
  simp only
  split
  · exact hfailed _ _ false (fun h => absurd h Bool.false_ne_true)
  · rename_i v directory _
    split
    · rename_i w rebuilt e hengine
      refine hfailed _ _ rebuilt fun h => ?_
      rw [h] at hengine
      exact Engine.checks_of_rebuilt hengine
    · rename_i w rebuilt engine hengine
      have hhome : engine.home.isNone = false := Engine.isNone_home_of_openIn hengine
      obtain ⟨hwarned, _⟩ := reported_warnRebuilt
        { s.allocateCache (s.logger path) options with volume := w } (s.logger path) rebuilt
      have hsessions := congrArg Roster.sessions (hwarned.trans hroster)
      refine .opened ⟨s.logger path, options, engine, 0, 0, []⟩ (directory.hasData v) rebuilt
        (congrArg Table.fresh hsessions) ?_
        (congrArg (Roster.openSession · _) (hwarned.trans hroster)) (fun h => ?_)
        ((hallocated _).trans ((tells_warnRebuilt _ (s.logger path) rebuilt).trans
          ((Tells.say _ (s.logger path) _).trans (Tells.say _ (s.logger path) _))))
      · rw [Session.charter, hhome]
      · rw [h] at hengine
        simp [Charter.checks, Engine.checks_of_rebuilt hengine]

theorem attempt_openInMemory (s : Store) (options : Options) :
    s.Attempt (s.openInMemory options).1 ⟨s.logger memoryName, options, true⟩
      (.opened (s.openInMemory options).2) := by
  have hallocated := tells_allocateCache s (s.logger memoryName) options
  obtain ⟨hroster, _, hverdicts⟩ := reported_allocateCache s (s.logger memoryName) options
  have hfresh : (s.allocateCache (s.logger memoryName) options).sessions.fresh =
      s.sessions.fresh := congrArg (fun r => Table.fresh r.sessions) hroster
  have hnever : false = true → Charter.checks ⟨s.logger memoryName, options, true⟩ = true :=
    fun h => absurd h Bool.false_ne_true
  unfold openInMemory
  simp only
  rcases Engine.openInMemory_cases (s.allocateCache (s.logger memoryName) options).verdicts with
    heq | ⟨e, _, heq⟩
  · rw [heq]
    exact .opened ⟨s.logger memoryName, options, .inMemory, 0, 0, []⟩ false false hfresh rfl
      (congrArg (Roster.openSession · _) hroster) hnever
      (hallocated.trans (Tells.say _ (s.logger memoryName) _))
  · rw [heq]
    refine .failed e false ?_ hnever
      (hallocated.trans (tells_abandon _ (s.logger memoryName) options))
    rw [roster_abandon]
    exact congrArg Roster.skipSession hroster

/-- Every attempt to open a session succeeds or fails. -/
theorem attempt {action : Action} {charter : Charter} (h : s.charterFor action = some charter) :
    s.Attempt (s.perform action).1 charter (s.perform action).2 := by
  cases action with
  | openAt path options =>
    obtain rfl := Option.some.inj h
    exact attempt_openAt s path options
  | openMemory options =>
    obtain rfl := Option.some.inj h
    exact attempt_openInMemory s options
  | _ => simp [charterFor] at h

/-- Whatever a repair finds, it has released its logger when it returns. -/
theorem tells_repair (s : Store) (path : String) :
    ∃ notices : List Notice, (∀ notice ∈ notices, notice.isLeftover = false) ∧
      s.Tells (s.repair path).1 (some s.sessions.fresh) notices := by
  have hreleased : ∀ t : Store, t.journal = s.journal →
      ∃ notices : List Notice, (∀ notice ∈ notices, notice.isLeftover = false) ∧
        s.Tells (t.releaseLogger (s.logger path)) (some s.sessions.fresh) notices :=
    fun t hjournal => ⟨[.loggerReleased path], by simp [Notice.isLeftover],
      (Tells.nothing hjournal).trans (tells_releaseLogger t (s.logger path))⟩
  unfold repair
  simp only
  split
  · exact hreleased _ rfl
  · split
    · exact hreleased _ rfl
    · rename_i rebuilt _ _
      refine ⟨[repairNotice rebuilt, .loggerReleased path], ?_,
        (Tells.say s (s.logger path) (repairNotice rebuilt)).trans
          (tells_releaseLogger _ (s.logger path))⟩
      cases rebuilt <;> simp [repairNotice, Notice.isLeftover]

/-! ## Closing -/

/-- What is reported when the children of a session have their views taken from them. -/
def revocation (s : Store) (session : Session) : List Notice :=
  let held := session.leases.filter s.isHeld
  if held = [] then [] else [.viewsRevoked held.length]

theorem isLeftover_of_mem_revocation (s : Store) (session : Session) :
    ∀ notice ∈ s.revocation session, notice.isLeftover = true := by
  unfold revocation
  simp only
  split
  · simp
  · simp [Notice.isLeftover]

theorem tells_revokeLeases (s : Store) (session : Session) :
    s.Tells (s.revokeLeases session) (some session.logger.session) (s.revocation session) := by
  unfold revokeLeases revocation
  simp only [foldl_revoke]
  split
  · exact .nothing rfl
  · exact .say _ session.logger _

/-- A session that ends revokes its leases, and then lets go of what it has. -/
theorem tells_discard {session : Session} (h : s.sessions.get? id = some session) :
    s.Tells (s.discard id) (some session.logger.session)
      (s.revocation session ++ session.charter.release) := by
  refine (tells_revokeLeases s session).trans ?_
  unfold discard
  rw [h]
  refine Tells.trans ?_ ((tells_releaseCache _ session.logger session.options).trans
    (tells_releaseLogger _ session.logger))
  exact (Tells.say _ session.logger _).trans (Tells.note _ session.logger _)

/-- A session that is closed says that it leaves children, if it does, and then ends. -/
theorem tells_close {session : Session} (h : s.sessions.get? id = some session) :
    ∃ warning : List Notice, (∀ notice ∈ warning,
        notice = .closingWithChildren session.liveSnapshots session.liveIterators) ∧
      s.Tells (s.close id) (some session.logger.session)
        (warning ++ (s.revocation session ++ session.charter.release)) := by
  unfold close
  rw [h]
  simp only
  split
  · refine ⟨[.closingWithChildren session.liveSnapshots session.liveIterators], by simp, ?_⟩
    exact (Tells.say s session.logger _).trans (tells_discard h)
  · exact ⟨[], by simp, tells_discard h⟩

/-- However a session ends, it says what it had left, and then lets go of what it has. -/
theorem tells_discard_left {session : Session} (h : s.sessions.get? id = some session) :
    ∃ left : List Notice, (∀ notice ∈ left, notice.isLeftover = true) ∧
      s.Tells (s.discard id) (some session.logger.session) (left ++ session.charter.release) :=
  ⟨_, isLeftover_of_mem_revocation s session, tells_discard h⟩

theorem tells_close_left {session : Session} (h : s.sessions.get? id = some session) :
    ∃ left : List Notice, (∀ notice ∈ left, notice.isLeftover = true) ∧
      s.Tells (s.close id) (some session.logger.session) (left ++ session.charter.release) := by
  obtain ⟨warning, hwarning, htells⟩ := tells_close h
  refine ⟨warning ++ s.revocation session, fun notice hmem => ?_, ?_⟩
  · rcases List.mem_append.mp hmem with hmem | hmem
    · rw [hwarning notice hmem]
      rfl
    · exact isLeftover_of_mem_revocation s session notice hmem
  · rw [List.append_assoc]
    exact htells

/-! ## Operations that say nothing -/

theorem journal_latest (s : Store) (id : SessionId) : (s.latest id).1.journal = s.journal := by
  unfold latest
  split <;> rfl

theorem journal_viewAt (s : Store) (id : SessionId) (snapshot : Option SnapshotId) :
    (s.viewAt id snapshot).1.journal = s.journal := by
  cases snapshot with
  | none => exact journal_latest s id
  | some snapshot => rfl

theorem journal_commit (s : Store) (id : SessionId) (write : Write) :
    (s.commit id write).1.journal = s.journal := by
  unfold commit
  split <;> rfl

theorem journal_get (s : Store) (id : SessionId) (snapshot : Option SnapshotId) (key : Bytes) :
    (s.get id snapshot key).1.journal = s.journal := by
  unfold get
  split
  · rfl
  · exact journal_viewAt s id snapshot

theorem journal_compute (s : Store) (id : SessionId) (session : Session) (property : Property) :
    (s.compute id session property).1.journal = s.journal := by
  cases property
  · exact journal_latest s id
  · rfl
  · rfl
  · exact journal_latest s id

theorem journal_snapshot (s : Store) (id : SessionId) :
    (s.snapshot id).1.journal = s.journal := by
  have hjournal := journal_latest s id
  unfold snapshot
  split
  · rename_i t e heq
    rw [heq] at hjournal
    exact hjournal
  · rename_i t view heq
    rw [heq] at hjournal
    exact hjournal

theorem journal_dropSnapshot (s : Store) (snapshot : SnapshotId) :
    (s.dropSnapshot snapshot).journal = s.journal := by
  unfold dropSnapshot
  split <;> rfl

theorem journal_dropIterator (s : Store) (iterator : IteratorId) :
    (s.dropIterator iterator).journal = s.journal := by
  unfold dropIterator
  split
  · rfl
  · rename_i row _
    cases row.view <;> rfl

/-! ## Chatter -/

/-- What has been added to the journal is chatter, in the name of an open session. -/
def Chatters (s s' : Store) : Prop :=
  ∃ origin notices, s.Tells s' origin notices ∧ (∀ notice ∈ notices, notice.isChatter = true) ∧
    ∀ name, origin = some name →
      ∃ id charter, s.roster.charter? id = some charter ∧ charter.logger.session = name

theorem Chatters.of_journal (h : s'.journal = s.journal) : s.Chatters s' :=
  ⟨none, [], .nothing h, by simp, by simp⟩

/-- What is done before anything is reported does not matter. -/
theorem Chatters.after {t : Store} (h : t.Chatters s') (hjournal : t.journal = s.journal)
    (hcontinues : s.roster.Continues t.roster) : s.Chatters s' := by
  obtain ⟨origin, notices, htells, hchatter, hnamed⟩ := h
  refine ⟨origin, notices, (Tells.nothing hjournal).trans htells, hchatter, fun name hname => ?_⟩
  obtain ⟨id, charter, hcharter, hsession⟩ := hnamed name hname
  exact ⟨id, charter, (hcontinues.charter id).symm.trans hcharter, hsession⟩

theorem chatters_say {t : Store} {session : Session} (hjournal : t.journal = s.journal)
    (hsession : s.sessions.get? id = some session) {notice : Notice}
    (hnotice : notice.isChatter = true) : s.Chatters (t.say session.logger notice) := by
  refine ⟨_, _, (Tells.nothing hjournal).trans (.say t session.logger notice),
    by simpa using hnotice, fun name hname => ?_⟩
  exact ⟨id, session.charter, Roster.charter?_of_session hsession, Option.some.inj hname⟩

theorem chatters_property (s : Store) (id : SessionId) (name : Bytes) :
    s.Chatters (s.property id name).1 := by
  unfold property
  split
  · rename_i session property hsession _
    have hjournal := journal_compute s id session property
    split
    · rename_i t text heq
      rw [heq] at hjournal
      exact .of_journal hjournal
    · rename_i t e heq
      rw [heq] at hjournal
      exact chatters_say hjournal hsession rfl
  · exact .of_journal rfl

theorem chatters_attach (s : Store) (id : SessionId) (view : Except Error Keyspace) :
    s.Chatters (s.attach id view).1 := by
  cases view with
  | ok view => exact .of_journal rfl
  | error e =>
    have hcontinues : s.roster.Continues (s.roster.modifySession id fun session =>
        { session with liveIterators := session.liveIterators + 1 }) :=
      Roster.continues_modifySession fun _ _ => rfl
    unfold attach
    simp only
    split
    · rename_i session hsession
      exact (chatters_say rfl hsession rfl).after rfl hcontinues
    · exact .of_journal rfl

theorem chatters_iterate (s : Store) (id : SessionId) (snapshot : Option SnapshotId) :
    s.Chatters (s.iterate id snapshot).1 := by
  unfold iterate
  split
  · exact .of_journal rfl
  · exact (chatters_attach _ id _).after (journal_viewAt s id snapshot)
      (continues_viewAt s id snapshot)

theorem chatters_move (s : Store) (iterator : IteratorId) (m : Move) :
    s.Chatters (s.move iterator m).1 := by
  unfold move
  split
  · exact .of_journal rfl
  · rename_i row _
    have hmoved : ∀ t : Store, t.journal = s.journal → s.roster.Continues t.roster → ∀ outcome,
        s.Chatters (t.warnDegraded row outcome) := by
      intro t hjournal hcontinues outcome
      unfold warnDegraded
      split
      · rename_i session hsession
        exact (chatters_say rfl hsession rfl).after hjournal hcontinues
      · exact .of_journal hjournal
    refine hmoved _ ?_ ?_ _
    · split <;> rfl
    · have htouched :
          s.roster.Continues (if s.reaches row m then s.touch row.owner else s).roster := by
        split
        · exact Roster.continues_accessed s.volume row.owner
        · exact .refl _
      exact htouched.trans (.of_sessions rfl)

theorem tells_destroy (s : Store) (path : String) :
    ∃ notices : List Notice, (∀ notice ∈ notices, notice.isLeftover = false) ∧
      s.Tells (s.destroy path).1 none notices := by
  unfold destroy
  split
  · exact ⟨[], by simp, .nothing rfl⟩
  · exact ⟨[.databaseDestroyed path], by simp [Notice.isLeftover], .record _ _⟩

end Store

end OrderedStore
