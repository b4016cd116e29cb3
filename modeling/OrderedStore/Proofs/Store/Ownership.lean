import OrderedStore.Proofs.Store.Counters

/-!
# Whose snapshots a session accepts

A session accepts the snapshots that the census has under its name and no others, in every
state that a store can come to.  A read or an iterator through a snapshot of another session
changes nothing at all, while a release through the wrong session fails and lets the snapshot
go all the same.

An action that brings no snapshot of another session along never fails because the wrong thing
is asked for (`rightful_perform`), whatever else may go wrong.
-/

set_option autoImplicit false

namespace OrderedStore

namespace Store

variable {s : Store} {id : SessionId} {snapshot : SnapshotId}

/-! ## One session and one snapshot -/

theorem checkRead_of_owns (hopen : s.isOpen id = true) (howns : s.owns id snapshot = true) :
    s.checkRead id (some snapshot) = .ok () := by
  rw [checkRead, if_pos hopen]
  exact if_pos howns

theorem checkRead_of_not_owns (hopen : s.isOpen id = true)
    (howns : ¬ s.owns id snapshot = true) :
    s.checkRead id (some snapshot) = .error .snapshotOwnership := by
  rw [checkRead, if_pos hopen]
  exact if_neg howns

theorem view?_of_pinned {lease : LeaseId} {view : Keyspace} (h : s.pinned lease = .ok view) :
    s.roster.view? lease = some view := by
  show (s.leases.get? lease).bind Lease.view = some view
  unfold pinned at h
  cases hlease : s.leases.get? lease with
  | none => simp [hlease, Lease.read, Lease.revoked] at h
  | some row =>
    obtain ⟨lent⟩ := row
    cases lent with
    | none => simp [hlease, Lease.read] at h
    | some view' => simpa [hlease, Lease.read] using h

theorem viewOf_of_owns {view : Keyspace} (howns : s.owns id snapshot = true)
    (hview : s.snapshotView snapshot = .ok view) :
    s.roster.viewOf (.snapshot snapshot) = some view := by
  obtain ⟨row, hrow, _⟩ := Option.map_eq_some_iff.mp (owner?_of_owns.mp howns)
  have hrow' : s.snapshots.get? snapshot = some row := hrow
  have hlease : s.roster.lease? (.snapshot snapshot) = some row.lease :=
    congrArg (Option.map Snapshot.lease) hrow
  rw [snapshotView, hrow'] at hview
  rw [Roster.viewOf, hlease, Option.bind_some]
  exact view?_of_pinned hview

/-- An open session reads through its own snapshot what the snapshot pins. -/
theorem get_of_owns (h : s.roster.Coherent) (hopen : s.isOpen id = true)
    (howns : s.owns id snapshot = true) :
    ∃ view, s.roster.viewOf (.snapshot snapshot) = some view ∧
      ∀ key, s.get id (some snapshot) key = (s, .ok (view.get? key)) := by
  obtain ⟨view, hview⟩ := snapshotView_of_owns h hopen howns
  refine ⟨view, viewOf_of_owns howns hview, fun key => ?_⟩
  rw [get_of_ok (checkRead_of_owns hopen howns)]
  show (s, (s.snapshotView snapshot).map _) = _
  rw [hview]
  rfl

/-- Its iterators through the snapshot stand over that. -/
theorem iterate_of_owns (h : s.roster.Coherent) (hopen : s.isOpen id = true)
    (howns : s.owns id snapshot = true) :
    ∃ view iterator, s.roster.viewOf (.snapshot snapshot) = some view ∧
      (s.iterate id (some snapshot)).2 = .ok iterator ∧
      (s.iterate id (some snapshot)).1.roster.viewOf (.iterator iterator) = some view := by
  obtain ⟨view, hview⟩ := snapshotView_of_owns h hopen howns
  obtain ⟨hroster, _, hid⟩ := iterate_of_ok (checkRead_of_owns hopen howns)
  refine ⟨view, _, viewOf_of_owns howns hview, hid, ?_⟩
  rw [hroster]
  show (s.roster.addIterator id (s.snapshotView snapshot)).viewOf _ = _
  rw [hview, h.viewOf_addIterator]
  exact if_pos rfl

/-! ## Errors that are not the caller's -/

/-- The session that an action is for and the snapshot that it brings along. -/
def Action.through? : Action → Option (SessionId × SnapshotId)
  | .get id (some snapshot) _ => some (id, snapshot)
  | .iterate id (some snapshot) => some (id, snapshot)
  | .releaseSnapshot id snapshot => some (id, snapshot)
  | _ => none

/-- The right thing was asked for: it is the file system or the engine that fails, or
something has been closed. -/
def Rightful (e : Error) : Prop := e.isExternal = true ∨ e.isClosed = true

theorem rightful_of_external {e : Error} (h : e.isExternal = true) : Rightful e := Or.inl h

theorem rightful_closed (resource : Resource) : Rightful (.closed resource) := Or.inr rfl

/-- Whose a snapshot is does not come into it. -/
theorem Rightful.ne_ownership {e : Error} (h : Rightful e) : e ≠ .snapshotOwnership := by
  rintro rfl
  simp [Rightful, Error.isExternal, Error.kind, Error.isClosed] at h

theorem rightful_commit (s : Store) (id : SessionId) (write : Write) :
    Except.Fails Rightful (s.commit id write).2 := by
  cases hsession : s.sessions.get? id with
  | none =>
    rw [commit_of_closed hsession]
    exact Except.fails_error (rightful_closed _)
  | some session =>
    have hopen : s.isOpen id = true := isOpen_iff_session.mpr ⟨session, hsession⟩
    exact (external_commit hopen write).mono fun _ => rightful_of_external

theorem rightful_snapshot (s : Store) (id : SessionId) :
    Except.Fails Rightful (s.snapshot id).2 := by
  cases hsession : s.sessions.get? id with
  | none =>
    have hlatest : (s.latest id).2 = .error (.closed .database) := by
      rw [latest_of_closed hsession]
    rw [snapshot_of_error hlatest]
    exact Except.fails_error (rightful_closed _)
  | some session =>
    have hopen : s.isOpen id = true := isOpen_iff_session.mpr ⟨session, hsession⟩
    exact (external_snapshot hopen).mono fun _ => rightful_of_external

/-- Reading through one's own snapshot, or through none, is refused to a closed session only. -/
theorem rightful_checkRead {through : Option SnapshotId}
    (howns : ∀ snapshot, through = some snapshot → s.owns id snapshot = true) :
    Except.Fails Rightful (s.checkRead id through) := by
  unfold checkRead
  split
  · cases through with
    | none => exact Except.fails_ok ()
    | some snapshot =>
      show Except.Fails Rightful (s.checkOwner id snapshot)
      rw [checkOwner, if_pos (howns snapshot rfl)]
      exact Except.fails_ok ()
  · exact Except.fails_error (rightful_closed _)

theorem rightful_get (h : s.roster.Coherent) {through : Option SnapshotId}
    (howns : ∀ snapshot, through = some snapshot → s.owns id snapshot = true) (key : Bytes) :
    Except.Fails Rightful (s.get id through key).2 := by
  cases hread : s.checkRead id through with
  | error e =>
    rw [get_of_error hread]
    exact Except.fails_error (rightful_checkRead howns e hread)
  | ok _ =>
    have hview := external_viewAt h (isOpen_of_checkRead hread) hread
    rw [get_of_ok hread]
    exact (hview.mono fun _ => rightful_of_external).map _

theorem rightful_iterate {through : Option SnapshotId}
    (howns : ∀ snapshot, through = some snapshot → s.owns id snapshot = true) :
    Except.Fails Rightful (s.iterate id through).2 := by
  cases hread : s.checkRead id through with
  | error e =>
    rw [iterate_of_error hread]
    exact Except.fails_error (rightful_checkRead howns e hread)
  | ok _ =>
    rw [(iterate_of_ok hread).2.2]
    exact Except.fails_ok _

/-- No iterator ever keeps an error of ownership, because iterators through snapshots of
other sessions are not made. -/
theorem retains_perform (h : s.roster.Coherent) (hretains : s.roster.Retains Rightful)
    (action : Action) : (s.perform action).1.roster.Retains Rightful := by
  have hkeeps : ∀ {s' : Store}, s.Keeps s' → s'.roster.Retains Rightful := fun hkept =>
    hretains.congr hkept.iterators
  cases action with
  | openAt path options =>
    rcases openAt_spec s path options with ⟨s', engine, heq, hopened⟩ | ⟨s', e, heq, hfailed⟩
    · obtain ⟨logger, options', hroster⟩ := hopened.roster
      simp only [perform, heq, hroster]
      exact hretains.congr rfl
    · simp only [perform, heq, hfailed.roster]
      exact hretains.congr rfl
  | openMemory options =>
    rcases openInMemory_spec s options with ⟨s', heq, _, hopened⟩ | ⟨s', e, heq, _, hfailed⟩
    · obtain ⟨logger, options', hroster⟩ := hopened.roster
      simp only [perform, heq, hroster]
      exact hretains.congr rfl
    · simp only [perform, heq, hfailed.roster]
      exact hretains.congr rfl
  | close id =>
    simp only [perform, roster_close]
    exact hretains.congr (Roster.iterators_endSession id)
  | discard id =>
    simp only [perform, roster_discard]
    exact hretains.congr (Roster.iterators_endSession id)
  | put id key value sync => exact hkeeps (keeps_commit s id _)
  | putOption id key value sync => exact hkeeps (keeps_commit s id _)
  | delete id key sync => exact hkeeps (keeps_commit s id _)
  | write id batch sync => exact hkeeps (keeps_commit s id _)
  | get id through key => exact hkeeps (keeps_get s id through key)
  | property id name => exact hkeeps (keeps_property s id name)
  | snapshot id =>
    have hlatest := hkeeps (keeps_latest s id)
    simp only [perform]
    cases hview : (s.latest id).2 with
    | error e =>
      rw [snapshot_of_error hview]
      exact hlatest
    | ok view =>
      rw [(snapshot_of_ok hview).1]
      exact hlatest.congr rfl
  | releaseSnapshot id snapshot =>
    simp only [perform, releaseSnapshot, (dropSnapshot_spec s snapshot).1]
    exact hretains.congr (Roster.iterators_dropSnapshot snapshot)
  | dropSnapshot snapshot =>
    simp only [perform, (dropSnapshot_spec s snapshot).1]
    exact hretains.congr (Roster.iterators_dropSnapshot snapshot)
  | iterate id through =>
    exact retains_iterate (fun _ => rightful_of_external) h hretains id through
  | move iterator m =>
    cases hrow : s.iterators.get? iterator with
    | none =>
      simp only [perform, move_of_none hrow]
      exact hretains
    | some row =>
      exact (fails_move (fun _ => rightful_of_external) h hretains hrow
        (Or.inr (rightful_closed _)) m).2
  | dropIterator iterator =>
    simp only [perform, (dropIterator_spec s iterator).1]
    exact hretains.dropIterator iterator
  | destroy path => exact hkeeps (.of_roster (destroy_spec s path).1)
  | repair path => exact hkeeps (keeps_of_skipSession (repair_spec s path).1)
  | listen filter => exact hretains
  | sway verdicts => exact hretains
  | report event => exact hretains

theorem retains_run (h : s.roster.Coherent) (hretains : s.roster.Retains Rightful)
    (actions : List Action) : (s.run actions).roster.Retains Rightful := by
  induction actions generalizing s with
  | nil => exact hretains
  | cons action rest ih => exact ih (coherent_perform h action) (retains_perform h hretains action)

/-- An action with nothing but the session's own snapshots asks for the right thing. -/
theorem rightful_perform (h : s.roster.Coherent) (hretains : s.roster.Retains Rightful)
    {action : Action}
    (howns : ∀ id snapshot, action.through? = some (id, snapshot) → s.owns id snapshot = true)
    {e : Error} (he : (s.perform action).2.error? = some e) : Rightful e := by
  have hexternal : ∀ {α : Type} {outcome : Except Error α}, Except.External outcome →
      Except.Fails Rightful outcome := fun hfails => hfails.mono fun _ => rightful_of_external
  cases action with
  | openAt path options =>
    exact hexternal (external_openAt s path options) e (Answer.error?_opened.mp he)
  | openMemory options =>
    exact hexternal (external_openInMemory s options) e (Answer.error?_opened.mp he)
  | put id key value sync => exact rightful_commit s id _ e (Answer.error?_done.mp he)
  | putOption id key value sync => exact rightful_commit s id _ e (Answer.error?_done.mp he)
  | delete id key sync => exact rightful_commit s id _ e (Answer.error?_done.mp he)
  | write id batch sync => exact rightful_commit s id _ e (Answer.error?_done.mp he)
  | get id through key =>
    have hown : ∀ snapshot, through = some snapshot → s.owns id snapshot = true := by
      rintro snapshot rfl
      exact howns id snapshot rfl
    exact rightful_get h hown key e (Answer.error?_value.mp he)
  | snapshot id => exact rightful_snapshot s id e (Answer.error?_snapshot.mp he)
  | releaseSnapshot id snapshot =>
    have hcheck : s.checkOwner id snapshot = .ok () := if_pos (howns id snapshot rfl)
    simp [perform, releaseSnapshot, hcheck, Answer.error?] at he
  | iterate id through =>
    have hown : ∀ snapshot, through = some snapshot → s.owns id snapshot = true := by
      rintro snapshot rfl
      exact howns id snapshot rfl
    exact rightful_iterate hown e (Answer.error?_iterator.mp he)
  | move iterator m =>
    have hmoved : Except.Fails Rightful (s.move iterator m).2 := by
      cases hrow : s.iterators.get? iterator with
      | none =>
        rw [move_of_none hrow]
        exact Except.fails_error (rightful_closed _)
      | some row =>
        exact (fails_move (fun _ => rightful_of_external) h hretains hrow
          (Or.inr (rightful_closed _)) m).1
    exact hmoved e (Answer.error?_done.mp he)
  | destroy path => exact hexternal (external_destroy s path) e (Answer.error?_done.mp he)
  | repair path => exact hexternal (external_repair s path) e (Answer.error?_done.mp he)
  | _ => cases he

end Store

/-! ## All snapshots -/

namespace Census

/-- Who may use which snapshot is told by the census. -/
structure Decides (c : Census) (s : Store) : Prop where
  /-- The identity check accepts the session that made a snapshot and no other. -/
  owns : ∀ {id : SessionId} {snapshot : SnapshotId},
    s.owns id snapshot = true ↔ (.snapshot snapshot, id) ∈ c
  /-- A session reads what a snapshot of its own pins. -/
  get_own : ∀ {id : SessionId} {snapshot : SnapshotId}, s.isOpen id = true →
    (.snapshot snapshot, id) ∈ c →
    ∃ view, s.roster.viewOf (.snapshot snapshot) = some view ∧
      ∀ key, s.get id (some snapshot) key = (s, .ok (view.get? key))
  /-- Its iterators through the snapshot stand over that. -/
  iterate_own : ∀ {id : SessionId} {snapshot : SnapshotId}, s.isOpen id = true →
    (.snapshot snapshot, id) ∈ c →
    ∃ view iterator, s.roster.viewOf (.snapshot snapshot) = some view ∧
      (s.iterate id (some snapshot)).2 = .ok iterator ∧
      (s.iterate id (some snapshot)).1.roster.viewOf (.iterator iterator) = some view
  /-- Through any other snapshot it reads nothing, and nothing changes. -/
  get_foreign : ∀ {id : SessionId} {snapshot : SnapshotId}, s.isOpen id = true →
    (.snapshot snapshot, id) ∉ c →
    ∀ key, s.get id (some snapshot) key = (s, .error .snapshotOwnership)
  iterate_foreign : ∀ {id : SessionId} {snapshot : SnapshotId}, s.isOpen id = true →
    (.snapshot snapshot, id) ∉ c →
    s.iterate id (some snapshot) = (s, .error .snapshotOwnership)
  /-- A release succeeds for the session that made the snapshot and for no other. -/
  release_outcome : ∀ (id : SessionId) (snapshot : SnapshotId),
    (s.releaseSnapshot id snapshot).2 =
      if (.snapshot snapshot, id) ∈ c then .ok () else .error .snapshotOwnership
  /-- In either case the snapshot is gone, and everything else that is handed out stays. -/
  release_owner : ∀ (id : SessionId) (snapshot : SnapshotId) (b : Borrower),
    (s.releaseSnapshot id snapshot).1.roster.owner? b =
      if b = .snapshot snapshot then none else s.roster.owner? b
  release_view : ∀ (id : SessionId) (snapshot : SnapshotId) (b : Borrower),
    (s.releaseSnapshot id snapshot).1.roster.viewOf b =
      if b = .snapshot snapshot then none else s.roster.viewOf b
  /-- It counts for the session that made the snapshot and for no other. -/
  release_counters : ∀ (id : SessionId) (snapshot : SnapshotId) (other : SessionId),
    (s.releaseSnapshot id snapshot).1.roster.counters? other =
      if (.snapshot snapshot, other) ∈ c then
        (s.roster.counters? other).map fun n => (n.1 - 1, n.2)
      else s.roster.counters? other

theorem Lists.decides {c : Census} {s : Store} (h : c.Lists s.roster)
    (hcoherent : s.roster.Coherent) : c.Decides s := by
  have howns : ∀ {id : SessionId} {snapshot : SnapshotId},
      s.owns id snapshot = true ↔ (.snapshot snapshot, id) ∈ c := fun {id snapshot} =>
    Store.owner?_of_owns.trans (h.mem_iff (.snapshot snapshot) id).symm
  refine
    { owns := howns
      get_own := fun hopen hmem => Store.get_of_owns hcoherent hopen (howns.mpr hmem)
      iterate_own := fun hopen hmem => Store.iterate_of_owns hcoherent hopen (howns.mpr hmem)
      get_foreign := ?_
      iterate_foreign := ?_
      release_outcome := ?_
      release_owner := ?_
      release_view := ?_
      release_counters := (h.exact_of_lists hcoherent).release }
  · intro id snapshot hopen hmem key
    exact Store.get_of_error (Store.checkRead_of_not_owns hopen (mt howns.mp hmem)) key
  · intro id snapshot hopen hmem
    exact Store.iterate_of_error (Store.checkRead_of_not_owns hopen (mt howns.mp hmem))
  · intro id snapshot
    exact if_congr howns rfl rfl
  · intro id snapshot b
    show (s.dropSnapshot snapshot).roster.owner? b = _
    rw [(Store.dropSnapshot_spec s snapshot).1]
    exact Roster.owner?_dropSnapshot snapshot b
  · intro id snapshot b
    show (s.dropSnapshot snapshot).roster.viewOf b = _
    rw [(Store.dropSnapshot_spec s snapshot).1]
    exact hcoherent.viewOf_dropSnapshot snapshot b

end Census

end OrderedStore
