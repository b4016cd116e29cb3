import OrderedStore.Proofs.Store.Trace

/-!
# Sessions that close quietly

A session that closes warns of children that are still there and reports the views that it
has to take from them.  A journal is quiet if nothing of this kind is in it.  Every
operation but the closing of a session keeps the journal quiet, as may be read from what it
adds, and so does the closing of a session that no snapshot and no iterator belongs to.
-/

set_option autoImplicit false

namespace OrderedStore

/-- What a session says on the side is not about something that was left. -/
theorem Notice.isLeftover_of_isChatter {notice : Notice} (h : notice.isChatter = true) :
    notice.isLeftover = false := by
  cases notice <;> first | rfl | exact absurd h Bool.false_ne_true

namespace Charter

variable (charter : Charter)

theorem isLeftover_of_mem_opening (existing rebuilt : Bool) :
    ∀ notice ∈ charter.opening existing rebuilt, notice.isLeftover = false := by
  unfold opening Options.allocation warning
  cases charter.options.cache <;> cases charter.memory <;> cases rebuilt <;>
    simp [Notice.isLeftover]

theorem isLeftover_of_mem_failure (rebuilt : Bool) :
    ∀ notice ∈ charter.failure rebuilt, notice.isLeftover = false := by
  unfold failure Options.allocation Options.deallocation warning
  cases charter.options.cache <;> cases rebuilt <;> simp [Notice.isLeftover]

theorem isLeftover_of_mem_release : ∀ notice ∈ charter.release, notice.isLeftover = false := by
  unfold release Options.deallocation
  cases charter.options.cache <;> simp [Notice.isLeftover]

end Charter

namespace Store

/-- Nothing has been left when a session closed. -/
def Quiet (s : Store) : Prop := ∀ event ∈ s.journal, event.notice.isLeftover = false

variable {s s' : Store} {id : SessionId}

theorem Quiet.tells (h : s.Quiet) {origin : Option SessionId} {notices : List Notice}
    (htells : s.Tells s' origin notices)
    (hnotices : ∀ notice ∈ notices, notice.isLeftover = false) : s'.Quiet := by
  obtain ⟨events, hjournal, rfl, _⟩ := htells
  intro event hmem
  rw [hjournal] at hmem
  rcases List.mem_append.mp hmem with hmem | hmem
  · exact h event hmem
  · exact hnotices _ (List.mem_map_of_mem hmem)

theorem Quiet.congr (h : s.Quiet) (hjournal : s'.journal = s.journal) : s'.Quiet :=
  h.tells (.nothing hjournal : s.Tells s' none []) (by simp)

theorem Quiet.record (h : s.Quiet) {event : Event} (hevent : event.notice.isLeftover = false) :
    (s.record event).Quiet :=
  h.tells (.record s event) (by simpa using hevent)

theorem Quiet.chatters (h : s.Quiet) (hchatters : s.Chatters s') : s'.Quiet := by
  obtain ⟨origin, notices, htells, hchatter, _⟩ := hchatters
  exact h.tells htells fun notice hmem => Notice.isLeftover_of_isChatter (hchatter notice hmem)

/-! ## Opening and maintenance -/

theorem Quiet.attempt (h : s.Quiet) {action : Action} {charter : Charter}
    (hcharter : s.charterFor action = some charter) : (s.perform action).1.Quiet := by
  have hattempt := Store.attempt hcharter
  generalize (s.perform action).2 = answer at hattempt
  cases hattempt with
  | opened session existing rebuilt _ _ _ _ htells =>
    exact h.tells htells (charter.isLeftover_of_mem_opening existing rebuilt)
  | failed e rebuilt _ _ htells => exact h.tells htells (charter.isLeftover_of_mem_failure rebuilt)

theorem Quiet.openAt (h : s.Quiet) (path : String) (options : Options) :
    (s.openAt path options).1.Quiet :=
  h.attempt (show s.charterFor (.openAt path options) = some _ from rfl)

theorem Quiet.openInMemory (h : s.Quiet) (options : Options) :
    (s.openInMemory options).1.Quiet :=
  h.attempt (show s.charterFor (.openMemory options) = some _ from rfl)

theorem Quiet.destroy (h : s.Quiet) (path : String) : (s.destroy path).1.Quiet := by
  obtain ⟨notices, hnotices, htells⟩ := tells_destroy s path
  exact h.tells htells hnotices

theorem Quiet.repair (h : s.Quiet) (path : String) : (s.repair path).1.Quiet := by
  obtain ⟨notices, hnotices, htells⟩ := tells_repair s path
  exact h.tells htells hnotices

/-! ## Sessions and their children -/

theorem Quiet.commit (h : s.Quiet) (id : SessionId) (write : Write) :
    (s.commit id write).1.Quiet := h.congr (journal_commit s id write)

theorem Quiet.get (h : s.Quiet) (id : SessionId) (snapshot : Option SnapshotId) (key : Bytes) :
    (s.get id snapshot key).1.Quiet := h.congr (journal_get s id snapshot key)

theorem Quiet.property (h : s.Quiet) (id : SessionId) (name : Bytes) :
    (s.property id name).1.Quiet := h.chatters (chatters_property s id name)

theorem Quiet.snapshot (h : s.Quiet) (id : SessionId) : (s.snapshot id).1.Quiet :=
  h.congr (journal_snapshot s id)

theorem Quiet.iterate (h : s.Quiet) (id : SessionId) (snapshot : Option SnapshotId) :
    (s.iterate id snapshot).1.Quiet := h.chatters (chatters_iterate s id snapshot)

theorem Quiet.move (h : s.Quiet) (iterator : IteratorId) (m : Move) :
    (s.move iterator m).1.Quiet := h.chatters (chatters_move s iterator m)

theorem Quiet.dropSnapshot (h : s.Quiet) (snapshot : SnapshotId) :
    (s.dropSnapshot snapshot).Quiet := h.congr (journal_dropSnapshot s snapshot)

theorem Quiet.dropIterator (h : s.Quiet) (iterator : IteratorId) :
    (s.dropIterator iterator).Quiet := h.congr (journal_dropIterator s iterator)

/-! ## Closing -/

/-- A session that nothing belongs to counts nothing and holds no lease. -/
theorem childless (h : s.roster.Coherent) (hnone : ∀ b, s.roster.owner? b ≠ some id)
    {session : Session} (hsession : s.sessions.get? id = some session) :
    session.leases.filter s.isHeld = [] ∧ session.liveSnapshots = 0 ∧
      session.liveIterators = 0 := by
  have hcounters : s.roster.counters? id = some (session.liveSnapshots, session.liveIterators) := by
    show (s.sessions.get? id).map _ = _
    rw [hsession]
    rfl
  have hsnapshots : s.roster.snapshotsOf id = 0 := by
    refine Table.count_eq_zero h.snapshots fun snapshot row hrow => ?_
    have hne := hnone (.snapshot snapshot)
    rw [Roster.owner?, hrow] at hne
    simpa using hne
  have hiterators : s.roster.iteratorsOf id = 0 := by
    refine Table.count_eq_zero h.iterators fun iterator row hrow => ?_
    have hne := hnone (.iterator iterator)
    rw [Roster.owner?, hrow] at hne
    simpa using hne
  have hcounted := h.counted hcounters
  rw [hsnapshots, hiterators] at hcounted
  obtain ⟨hlive, hlive'⟩ := Prod.mk.inj hcounted
  refine ⟨List.filter_eq_nil_iff.mpr fun lease hmem hheld => ?_, hlive, hlive'⟩
  have hheld' : s.roster.isHeld lease = true := hheld
  have hlist : s.roster.leasesOf id = some session.leases := by
    show (s.sessions.get? id).map Session.leases = _
    rw [hsession]
    rfl
  obtain ⟨b, hb⟩ := h.leased.borrowed hheld'
  exact hnone b (h.leased.own hlist hmem hb)

theorem Quiet.discard (hquiet : s.Quiet) (h : s.roster.Coherent)
    (hnone : ∀ b, s.roster.owner? b ≠ some id) : (s.discard id).Quiet := by
  cases hsession : s.sessions.get? id with
  | none =>
    simp only [Store.discard, hsession]
    exact hquiet
  | some session =>
    obtain ⟨hheld, _, _⟩ := childless h hnone hsession
    have htells := tells_discard hsession
    rw [revocation, hheld] at htells
    exact hquiet.tells htells session.charter.isLeftover_of_mem_release

theorem Quiet.close (hquiet : s.Quiet) (h : s.roster.Coherent)
    (hnone : ∀ b, s.roster.owner? b ≠ some id) : (s.close id).Quiet := by
  have hdiscarded := hquiet.discard h hnone
  unfold Store.close
  cases hsession : s.sessions.get? id with
  | none => exact hquiet
  | some session =>
    obtain ⟨_, hsnapshots, hiterators⟩ := childless h hnone hsession
    simp only
    rw [hsnapshots, hiterators, if_neg (by decide)]
    exact hdiscarded

end Store

end OrderedStore
