import OrderedStore.Proofs.Store.Census

/-!
# Who has been lent a view

A session lends a view to each snapshot, and to each iterator that is opened with one, under
a lease of the child's own.  It lists the leases, so as to revoke them when it ends.  The
list is not told when a child goes: a lease that nobody holds any more stays in it until the
next view is lent.

The loans are a census of their own.  Whoever is lent a view is entered, and whoever goes is
struck off, so what is in it does not depend on the lists.  The lists are exact in its terms:
at any time the leases of a session's children are in its list once each and all else there
is dead, right after a loan nothing there is dead, and the number of views that are reported
as revoked when the session ends is the number of its loans.
-/

set_option autoImplicit false

namespace OrderedStore

namespace Roster

/-- The session that has lent a borrower its view. -/
def lender? (r : Roster) (b : Borrower) : Option SessionId :=
  (r.lease? b).bind fun _ => r.owner? b

variable {r r' : Roster} {b : Borrower} {id : SessionId}

theorem lender?_eq_some_iff :
    r.lender? b = some id ↔ r.owner? b = some id ∧ ∃ lease, r.lease? b = some lease := by
  unfold lender?
  cases r.lease? b <;> simp

theorem lender?_of_unowned (h : r.owner? b = none) : r.lender? b = none := by
  unfold lender?
  rw [h]
  cases r.lease? b <;> rfl

theorem lender?_congr (howner : ∀ b, r'.owner? b = r.owner? b)
    (hlease : ∀ b, r'.lease? b = r.lease? b) (b : Borrower) : r'.lender? b = r.lender? b := by
  unfold lender?
  rw [howner, hlease]

/-- A borrower that goes returns its loan. -/
theorem lender?_remove (howner : ∀ b', r'.owner? b' = if b' = b then none else r.owner? b')
    (hlease : ∀ b', r'.lease? b' = if b' = b then none else r.lease? b') (b' : Borrower) :
    r'.lender? b' = if b' = b then none else r.lender? b' := by
  unfold lender?
  rw [howner, hlease]
  split <;> rfl

/-- A new borrower is lent a view. -/
theorem lender?_add {lease : LeaseId}
    (howner : ∀ b', r'.owner? b' = if b' = b then some id else r.owner? b')
    (hlease : ∀ b', r'.lease? b' = if b' = b then some lease else r.lease? b') (b' : Borrower) :
    r'.lender? b' = if b' = b then some id else r.lender? b' := by
  unfold lender?
  rw [howner, hlease]
  split <;> rfl

/-- A new borrower is lent nothing. -/
theorem lender?_addBare (hnew : r.owner? b = none)
    (howner : ∀ b', r'.owner? b' = if b' = b then some id else r.owner? b')
    (hlease : ∀ b', r'.lease? b' = if b' = b then none else r.lease? b') (b' : Borrower) :
    r'.lender? b' = r.lender? b' := by
  by_cases hb : b' = b
  · rw [hb, lender?_of_unowned hnew, lender?, hlease, if_pos rfl]
    rfl
  · unfold lender?
    rw [howner, hlease, if_neg hb, if_neg hb]

theorem lender?_modifyEngine (f : Engine → Engine) (b : Borrower) :
    (r.modifyEngine id f).lender? b = r.lender? b :=
  lender?_congr owner?_modifySession lease?_modifySession b

theorem lender?_skipSession (b : Borrower) : r.skipSession.lender? b = r.lender? b := by
  cases b <;> rfl

theorem lender?_openSession (session : Session) (b : Borrower) :
    (r.openSession session).lender? b = r.lender? b :=
  lender?_congr (owner?_openSession session) (lease?_openSession session) b

theorem lender?_endSession (id : SessionId) (b : Borrower) :
    (r.endSession id).lender? b = r.lender? b :=
  lender?_congr (owner?_endSession id) (lease?_endSession id) b

/-- Nothing in the list of the session is dead. -/
def Clean (r : Roster) (id : SessionId) : Prop :=
  ∀ {leases : List LeaseId}, r.leasesOf id = some leases →
    ∀ lease ∈ leases, r.isHeld lease = true

/-- The list is purged before a new lease is entered, and a new lease is held. -/
theorem clean_of_lend {view : Keyspace} (hwell : r.leases.WellFormed)
    (hleases : r'.leases = r.leases.insert (.of view))
    (hlist : r'.leasesOf id =
      (r.leasesOf id).map fun leases => leases.filter r.isHeld ++ [r.leases.fresh]) :
    r'.Clean id := by
  intro listed hlisted lease hmem
  rw [hlist] at hlisted
  obtain ⟨leases, _, rfl⟩ := Option.map_eq_some_iff.mp hlisted
  rw [isHeld_eq_true_iff, hleases]
  rcases List.mem_append.mp hmem with hmem | hmem
  · obtain ⟨row, hrow⟩ := isHeld_eq_true_iff.mp (List.mem_filter.mp hmem).2
    exact ⟨row, (r.leases.get?_insert_of_ne _ (hwell.ne_fresh hrow)).trans hrow⟩
  · rw [List.mem_singleton.mp hmem]
    exact ⟨_, r.leases.get?_insert_fresh _⟩

/-- What a change of a roster does to the loans. -/
inductive Lends (r r' : Roster) (c : Census) : Census → Prop where
  | kept (same : ∀ b, r'.lender? b = r.lender? b) : Lends r r' c c
  | returned {b : Borrower} (gone : ∀ b', r'.lender? b' = if b' = b then none else r.lender? b') :
    Lends r r' c (c.strike b)
  | lent {b : Borrower} {id : SessionId} (new : r.lender? b = none)
    (added : ∀ b', r'.lender? b' = if b' = b then some id else r.lender? b')
    (clean : r'.Clean id) : Lends r r' c ((b, id) :: c)

theorem Lends.records {c c' : Census} (h : r.Lends r' c c') (hrecords : c.Records r.lender?) :
    c'.Records r'.lender? := by
  cases h with
  | kept hsame => exact hrecords.congr hsame
  | returned hgone => exact hrecords.strike hgone
  | lent hnew hadded _ => exact hrecords.add hnew hadded

/-- Whoever is new among the loans has just been lent a view, by a session whose list is
clean. -/
theorem Lends.clean {c c' : Census} (h : r.Lends r' c c') (hmem : (b, id) ∈ c')
    (hnew : (b, id) ∉ c) : r'.Clean id := by
  cases h with
  | kept _ => exact absurd hmem hnew
  | returned _ => exact absurd (List.mem_of_mem_filter hmem) hnew
  | lent _ _ hclean =>
    obtain ⟨rfl, rfl⟩ := Prod.mk.inj ((List.mem_cons.mp hmem).resolve_right hnew)
    exact hclean

/-- A change that comes after one by which no loan has changed. -/
theorem Lends.of_same {r'' : Roster} {c c' : Census} (h : r'.Lends r'' c c')
    (hsame : ∀ b, r'.lender? b = r.lender? b) : r.Lends r'' c c' := by
  cases h with
  | kept h => exact .kept fun b => (h b).trans (hsame b)
  | returned hgone => exact .returned fun b' => by rw [hgone, hsame]
  | lent hnew hadded hclean =>
    exact .lent ((hsame _).symm.trans hnew) (fun b' => by rw [hadded, hsame]) hclean

theorem Coherent.lends_addSnapshot (h : r.Coherent) (id : SessionId) (view : Keyspace)
    (c : Census) :
    r.Lends (r.addSnapshot id view) c ((.snapshot r.snapshots.fresh, id) :: c) :=
  .lent (lender?_of_unowned h.owner?_snapshot_fresh)
    (lender?_add (owner?_addSnapshot id view) (lease?_addSnapshot id view))
    (clean_of_lend h.leases rfl ((leasesOf_addSnapshot id view id).trans (if_pos rfl)))

theorem Coherent.lends_addIterator (h : r.Coherent) (id : SessionId) (view : Keyspace)
    (c : Census) :
    r.Lends (r.addIterator id (.ok view)) c ((.iterator r.iterators.fresh, id) :: c) :=
  .lent (lender?_of_unowned h.owner?_iterator_fresh)
    (lender?_add (owner?_addIterator id _) (lease?_addIterator_ok id view))
    (clean_of_lend h.leases rfl ((leasesOf_addIterator_ok id view id).trans (if_pos rfl)))

end Roster

/-! ## The loans of a roster -/

namespace Census

variable {r : Roster} {c : Census} {id : SessionId} {leases : List LeaseId}

/-- How many snapshots and iterators are entered for a session. -/
def lentBy (c : Census) (id : SessionId) : Nat :=
  (c.snapshotsOf id).length + (c.iteratorsOf id).length

/-- Every child of a session is a snapshot or an iterator. -/
theorem length_childrenOf (c : Census) (id : SessionId) :
    (c.childrenOf some id).length = c.lentBy id := by
  induction c with
  | nil => rfl
  | cons entry rest ih =>
    obtain ⟨b, owner⟩ := entry
    unfold lentBy snapshotsOf iteratorsOf childrenOf at ih ⊢
    by_cases howner : owner = id
    · cases b with
      | snapshot snapshot =>
        simp only [List.filterMap_cons, howner, Borrower.snapshot?, Borrower.iterator?, if_true,
          List.length_cons, ih]
        omega
      | iterator iterator =>
        simp only [List.filterMap_cons, howner, Borrower.snapshot?, Borrower.iterator?, if_true,
          List.length_cons, ih]
        omega
    · simp only [List.filterMap_cons, howner, if_false, ih]

namespace Records

theorem mem_childrenOf (h : c.Records r.lender?) {b : Borrower} :
    b ∈ c.childrenOf some id ↔ r.owner? b = some id ∧ ∃ lease, r.lease? b = some lease := by
  rw [Census.mem_childrenOf fun _ _ => Option.some_inj, h.mem_iff, Roster.lender?_eq_some_iff]

/-- What is not dead in the list of a session are the leases of its children. -/
theorem perm_leases (h : c.Records r.lender?) (hleased : r.Leased)
    (hlist : r.leasesOf id = some leases) :
    (leases.filter r.isHeld).Perm ((c.childrenOf some id).filterMap r.lease?) := by
  have hchildren : (c.childrenOf some id).Nodup :=
    nodup_childrenOf (fun _ _ => Option.some_inj) h.nodup.of_map
  have hnodup : ((c.childrenOf some id).filterMap r.lease?).Nodup :=
    hchildren.filterMap fun b b' lease hb hb' => hleased.unique hb hb'
  refine (List.perm_ext_iff_of_nodup ((hleased.nodup hlist).filter _) hnodup).mpr fun lease => ?_
  rw [List.mem_filter, List.mem_filterMap]
  constructor
  · rintro ⟨hmem, hheld⟩
    obtain ⟨b, hlease⟩ := hleased.borrowed hheld
    exact ⟨b, h.mem_childrenOf.mpr ⟨hleased.own hlist hmem hlease, lease, hlease⟩, hlease⟩
  · rintro ⟨b, hmem, hlease⟩
    exact ⟨hleased.listed hlist (h.mem_childrenOf.mp hmem).1 hlease, hleased.isHeld hlease⟩

/-- So there are as many of them as snapshots and iterators that were lent a view. -/
theorem length_held (h : c.Records r.lender?) (hleased : r.Leased)
    (hlist : r.leasesOf id = some leases) : (leases.filter r.isHeld).length = c.lentBy id := by
  have hlease : ((c.childrenOf some id).filterMap r.lease?).length =
      (c.childrenOf some id).length := by
    refine List.filterMap_length_eq_length.mpr fun b hmem => ?_
    obtain ⟨_, lease, hlease⟩ := h.mem_childrenOf.mp hmem
    rw [hlease]
    rfl
  rw [(h.perm_leases hleased hlist).length_eq, hlease, length_childrenOf]

/-- A clean list has no more than these. -/
theorem length_of_clean (h : c.Records r.lender?) (hleased : r.Leased)
    (hlist : r.leasesOf id = some leases) (hclean : r.Clean id) : leases.length = c.lentBy id := by
  rw [← h.length_held hleased hlist, List.filter_eq_self.mpr (hclean hlist)]

end Records

end Census

/-! ## Keeping the loans -/

namespace Store

variable {s : Store} {c : Census} {id : SessionId} {session : Session}

/-- Does what is handed out come without a view? -/
def withholds (s : Store) : Happening → Bool
  | .act (.iterate id snapshot) => !(s.viewAt id snapshot).2.isOk
  | .unavailable _ _ => true
  | _ => false

/-- The loans after something has happened. -/
def loans (s : Store) (c : Census) (event : Happening) : Census :=
  if s.withholds event then c else c.note event (s.happen event).2

/-- Lets something happen and keeps the loans. -/
def track (entry : Store × Census) (event : Happening) : Store × Census :=
  ((entry.1.happen event).1, entry.1.loans entry.2 event)

/-- Lets things happen one after the other and keeps the loans. -/
def trackAll (entry : Store × Census) (events : List Happening) : Store × Census :=
  events.foldl track entry

theorem lender?_viewAt (s : Store) (id : SessionId) (snapshot : Option SnapshotId) (b : Borrower) :
    (s.viewAt id snapshot).1.roster.lender? b = s.roster.lender? b := by
  cases snapshot with
  | some snapshot => rfl
  | none =>
    show (s.latest id).1.roster.lender? b = _
    rw [roster_latest]
    exact Roster.lender?_modifyEngine _ b

theorem lender?_commit (s : Store) (id : SessionId) (write : Write) (b : Borrower) :
    (s.commit id write).1.roster.lender? b = s.roster.lender? b := by
  cases hsession : s.sessions.get? id with
  | none => rw [commit_of_closed hsession]
  | some session =>
    rw [(commit_of_open hsession write).1]
    exact Roster.lender?_modifyEngine _ b

theorem lender?_move (s : Store) (iterator : IteratorId) (m : Move) (b : Borrower) :
    (s.move iterator m).1.roster.lender? b = s.roster.lender? b := by
  cases hrow : s.iterators.get? iterator with
  | none => rw [move_of_none hrow]
  | some row =>
    rw [(move_of_some hrow m).1]
    refine (Roster.lender?_congr (Roster.owner?_setCursor iterator _)
      (Roster.lease?_setCursor iterator _) b).trans ?_
    split
    · exact Roster.lender?_modifyEngine _ b
    · rfl

theorem lender?_property (s : Store) (id : SessionId) (name : Bytes) (b : Borrower) :
    (s.property id name).1.roster.lender? b = s.roster.lender? b := by
  rcases (property_spec s id name).1 with hsame | hlatest
  · rw [hsame]
  · rw [hlatest]
    exact lender?_viewAt s id none b

theorem lender?_get (s : Store) (id : SessionId) (snapshot : Option SnapshotId) (key : Bytes)
    (b : Borrower) : (s.get id snapshot key).1.roster.lender? b = s.roster.lender? b := by
  cases hread : s.checkRead id snapshot with
  | error e => rw [get_of_error hread]
  | ok _ =>
    rw [get_of_ok hread]
    exact lender?_viewAt s id snapshot b

theorem lends_snapshot (h : s.roster.Coherent) (c : Census) (id : SessionId) :
    s.roster.Lends (s.snapshot id).1.roster c
      (c.note (.act (.snapshot id)) (.snapshot (s.snapshot id).2)) := by
  have hsame := lender?_viewAt s id none
  cases hview : (s.latest id).2 with
  | error e =>
    rw [snapshot_of_error hview]
    exact .kept hsame
  | ok view =>
    obtain ⟨hroster, _, houtcome⟩ := snapshot_of_ok hview
    have hfresh : (s.latest id).1.roster.snapshots = s.snapshots :=
      congrArg Roster.snapshots (roster_latest s id)
    have hlends := (coherent_latest h id).lends_addSnapshot id view c
    rw [hfresh, ← hroster] at hlends
    rw [houtcome]
    exact hlends.of_same hsame

/-- An iterator is lent the view that it is opened with, if there is one. -/
theorem lends_iterate (h : s.roster.Coherent) (c : Census) (id : SessionId)
    (snapshot : Option SnapshotId) :
    s.roster.Lends (s.iterate id snapshot).1.roster c
      (s.loans c (.act (.iterate id snapshot))) := by
  have hsame := lender?_viewAt s id snapshot
  show s.roster.Lends _ c (if (!(s.viewAt id snapshot).2.isOk) = true then c else
    c.note (.act (.iterate id snapshot)) (.iterator (s.iterate id snapshot).2))
  cases hread : s.checkRead id snapshot with
  | error e =>
    rw [iterate_of_error hread]
    simp only [Census.note, ite_self]
    exact .kept fun _ => rfl
  | ok _ =>
    obtain ⟨hroster, _, houtcome⟩ := iterate_of_ok hread
    have hcoherent := coherent_viewAt h id snapshot
    rw [houtcome, hroster]
    cases (s.viewAt id snapshot).2 with
    | error e =>
      exact .kept fun b => (Roster.lender?_addBare hcoherent.owner?_iterator_fresh
        (Roster.owner?_addIterator id _) (Roster.lease?_addIterator_error id e) b).trans (hsame b)
    | ok view => exact (hcoherent.lends_addIterator id view c).of_same hsame

theorem lends_dropSnapshot (c : Census) (snapshot : SnapshotId) :
    s.roster.Lends (s.dropSnapshot snapshot).roster c (c.strike (.snapshot snapshot)) := by
  rw [(dropSnapshot_spec s snapshot).1]
  exact .returned (Roster.lender?_remove (Roster.owner?_dropSnapshot snapshot)
    (Roster.lease?_dropSnapshot snapshot))

/-- Whatever happens lends at most one view, or returns one. -/
theorem lends_happen (h : s.roster.Coherent) (c : Census) (event : Happening) :
    s.roster.Lends (s.happen event).1.roster c (s.loans c event) := by
  cases event with
  | files v => exact .kept fun _ => rfl
  | unavailable id e =>
    show s.roster.Lends (s.unavailable id e).1.roster c c
    unfold unavailable
    split
    · rw [(attach_spec s id (.error e)).1]
      exact .kept (Roster.lender?_addBare h.owner?_iterator_fresh (Roster.owner?_addIterator id _)
        (Roster.lease?_addIterator_error id e))
    · exact .kept fun _ => rfl
  | act action =>
    cases action with
    | openAt path options =>
      refine .kept fun b => ?_
      rcases openAt_spec s path options with ⟨s', engine, heq, hopened⟩ | ⟨s', e, heq, hfailed⟩
      · obtain ⟨logger, options', hroster⟩ := hopened.roster
        simp only [happen, perform, heq]
        rw [hroster]
        exact Roster.lender?_openSession _ b
      · simp only [happen, perform, heq]
        rw [hfailed.roster]
        exact Roster.lender?_skipSession b
    | openMemory options =>
      refine .kept fun b => ?_
      rcases openInMemory_spec s options with ⟨s', heq, _, hopened⟩ | ⟨s', e, heq, _, hfailed⟩
      · obtain ⟨logger, options', hroster⟩ := hopened.roster
        simp only [happen, perform, heq]
        rw [hroster]
        exact Roster.lender?_openSession _ b
      · simp only [happen, perform, heq]
        rw [hfailed.roster]
        exact Roster.lender?_skipSession b
    | close id =>
      refine .kept fun b => ?_
      simp only [happen, perform, roster_close]
      exact Roster.lender?_endSession id b
    | discard id =>
      refine .kept fun b => ?_
      simp only [happen, perform, roster_discard]
      exact Roster.lender?_endSession id b
    | put id key value sync => exact .kept (lender?_commit s id _)
    | putOption id key value sync => exact .kept (lender?_commit s id _)
    | delete id key sync => exact .kept (lender?_commit s id _)
    | write id batch sync => exact .kept (lender?_commit s id _)
    | get id snapshot key => exact .kept (lender?_get s id snapshot key)
    | property id name => exact .kept (lender?_property s id name)
    | snapshot id => exact lends_snapshot h c id
    | releaseSnapshot id snapshot => exact lends_dropSnapshot c snapshot
    | dropSnapshot snapshot => exact lends_dropSnapshot c snapshot
    | iterate id snapshot => exact lends_iterate h c id snapshot
    | move iterator m => exact .kept (lender?_move s iterator m)
    | dropIterator iterator =>
      simp only [happen, perform, (dropIterator_spec s iterator).1]
      exact .returned (Roster.lender?_remove (Roster.owner?_dropIterator iterator)
        (Roster.lease?_dropIterator iterator))
    | destroy path =>
      refine .kept fun b => ?_
      simp only [happen, perform, (destroy_spec s path).1]
    | repair path =>
      refine .kept fun b => ?_
      simp only [happen, perform, (repair_spec s path).1]
      exact Roster.lender?_skipSession b
    | listen filter => exact .kept fun _ => rfl
    | sway verdicts => exact .kept fun _ => rfl
    | report event => exact .kept fun _ => rfl

/-- Whatever happens, the loans are those of the roster. -/
theorem records_trackAll (hcoherent : s.roster.Coherent) (h : c.Records s.roster.lender?)
    (events : List Happening) :
    (trackAll (s, c) events).1.roster.Coherent ∧
      (trackAll (s, c) events).2.Records (trackAll (s, c) events).1.roster.lender? := by
  induction events generalizing s c with
  | nil => exact ⟨hcoherent, h⟩
  | cons event rest ih =>
    exact ih (coherent_happen hcoherent event) ((lends_happen hcoherent c event).records h)

theorem records_ofVolume (v : Volume) :
    Census.Records [] (ofVolume v).roster.lender? where
  nodup := List.nodup_nil
  mem_iff b id := by cases b <;> simp [Roster.lender?, Roster.lease?, roster, ofVolume]

/-! ## What the lists are -/

/-- What is reported of a number of views that are revoked. -/
def revoked (n : Nat) : List Notice := if n = 0 then [] else [.viewsRevoked n]

end Store

namespace Census

/-- The lists of leases in a store whose loans are those of the census. -/
structure Leases (c : Census) (s : Store) : Prop where
  /-- The loans are to the children that have a lease. -/
  mem_iff : ∀ b id, (b, id) ∈ c ↔
    s.roster.owner? b = some id ∧ ∃ lease, s.roster.lease? b = some lease
  /-- The lease of a child is held, and it is in the list exactly once. -/
  once : ∀ {b : Borrower} {id : SessionId} {session : Session} {lease : LeaseId},
    s.sessions.get? id = some session → s.roster.owner? b = some id →
    s.roster.lease? b = some lease → s.isHeld lease = true ∧ session.leases.count lease = 1
  /-- All else in the list is dead. -/
  held : ∀ {id : SessionId} {session : Session}, s.sessions.get? id = some session →
    (session.leases.filter s.isHeld).Perm ((c.childrenOf some id).filterMap s.roster.lease?)
  /-- When a view has just been lent, before its borrower is there, nothing in the list is dead
  and the new lease is one more than the children's. -/
  lend : ∀ {id : SessionId} {session : Session}, s.sessions.get? id = some session →
    ∀ view, ∃ lent, (s.lend id view).1.sessions.get? id = some lent ∧
      (∀ lease ∈ lent.leases, (s.lend id view).1.isHeld lease = true) ∧
      lent.leases.count (s.lend id view).2 = 1 ∧ lent.leases.length = c.lentBy id + 1
  /-- When a child that was lent a view has just been handed out, nothing in the list is dead,
  and it is as long as there are children with a lease. -/
  handed : ∀ {event : Store.Happening} {b : Borrower} {id : SessionId} {session : Session},
    (b, id) ∈ s.loans c event → (b, id) ∉ c →
    (s.happen event).1.sessions.get? id = some session →
    (∀ lease ∈ session.leases, (s.happen event).1.isHeld lease = true) ∧
      session.leases.length = (s.loans c event).lentBy id
  /-- A session that is closed reports as many revoked views as there are children with a
  lease, and none if there are none. -/
  close : ∀ {id : SessionId} {session : Session}, s.sessions.get? id = some session →
    ∃ warning : List Notice, (∀ notice ∈ warning,
        notice = .closingWithChildren session.liveSnapshots session.liveIterators) ∧
      s.Tells (s.close id) (some session.logger.session)
        (warning ++ (Store.revoked (c.lentBy id) ++ session.charter.release))
  /-- So does one that is let go without being closed. -/
  discard : ∀ {id : SessionId} {session : Session}, s.sessions.get? id = some session →
    s.Tells (s.discard id) (some session.logger.session)
      (Store.revoked (c.lentBy id) ++ session.charter.release)

namespace Records

variable {s : Store} {c : Census} {id : SessionId} {session : Session}

theorem length_listed (h : c.Records s.roster.lender?) (hleased : s.roster.Leased)
    (hsession : s.sessions.get? id = some session) :
    (session.leases.filter s.isHeld).length = c.lentBy id :=
  h.length_held hleased (Roster.leasesOf_of_session hsession)

/-- What a session has to revoke are its loans. -/
theorem revocation_eq (h : c.Records s.roster.lender?) (hleased : s.roster.Leased)
    (hsession : s.sessions.get? id = some session) :
    s.revocation session = Store.revoked (c.lentBy id) := by
  unfold Store.revocation Store.revoked
  simp only [← List.length_eq_zero_iff, h.length_listed hleased hsession]

/-- Between the making of a lease and the making of its borrower. -/
theorem lend (h : c.Records s.roster.lender?) (hcoherent : s.roster.Coherent)
    (hsession : s.sessions.get? id = some session) (view : Keyspace) :
    ∃ lent, (s.lend id view).1.sessions.get? id = some lent ∧
      (∀ lease ∈ lent.leases, (s.lend id view).1.isHeld lease = true) ∧
      lent.leases.count (s.lend id view).2 = 1 ∧ lent.leases.length = c.lentBy id + 1 := by
  have hlist : s.roster.leasesOf id = some session.leases :=
    Roster.leasesOf_of_session hsession
  have hlent : (s.lend id view).1.sessions.get? id = some { session with
      leases := session.leases.filter s.isHeld ++ [s.leases.fresh] } := by
    show (s.sessions.modify id _).get? id = _
    rw [Table.get?_modify, if_pos rfl, hsession]
    rfl
  have hclean : (s.roster.lend id view).Clean id :=
    Roster.clean_of_lend hcoherent.leases rfl
      ((Roster.leasesOf_lend id view id).trans (if_pos rfl))
  have hnew : s.leases.fresh ∉ session.leases.filter s.isHeld := fun hmem =>
    Nat.lt_irrefl _ (hcoherent.leased.lt_next hlist (List.mem_of_mem_filter hmem))
  refine ⟨_, hlent, hclean (Roster.leasesOf_of_session hlent), ?_, ?_⟩
  · show (session.leases.filter s.isHeld ++ [s.leases.fresh]).count s.leases.fresh = 1
    rw [List.count_append, List.count_eq_zero_of_not_mem hnew, List.count_singleton_self]
  · rw [List.length_append, h.length_listed hcoherent.leased hsession]
    rfl

theorem leases (h : c.Records s.roster.lender?) (hcoherent : s.roster.Coherent) : c.Leases s where
  mem_iff b id := (h.mem_iff b id).trans Roster.lender?_eq_some_iff
  once hsession howner hlease := by
    have hlist := Roster.leasesOf_of_session (r := s.roster) hsession
    exact ⟨hcoherent.leased.isHeld hlease, List.count_eq_one_of_mem (hcoherent.leased.nodup hlist)
      (hcoherent.leased.listed hlist howner hlease)⟩
  held hsession := h.perm_leases hcoherent.leased (Roster.leasesOf_of_session hsession)
  lend hsession view := h.lend hcoherent hsession view
  handed {event b id session} hmem hnew hsession := by
    have hlends := Store.lends_happen hcoherent c event
    have hleased := (Store.coherent_happen hcoherent event).leased
    have hlist := Roster.leasesOf_of_session (r := (s.happen event).1.roster) hsession
    have hclean : (s.happen event).1.roster.Clean id := hlends.clean hmem hnew
    exact ⟨hclean hlist, (hlends.records h).length_of_clean hleased hlist hclean⟩
  close hsession := by
    rw [← h.revocation_eq hcoherent.leased hsession]
    exact Store.tells_close hsession
  discard hsession := by
    rw [← h.revocation_eq hcoherent.leased hsession]
    exact Store.tells_discard hsession

end Records

end Census

/-- Whatever happens in whatever order, over any files and whoever changes them, the lists of
leases are those of the loans. -/
theorem Store.lease_lists_exact (v : Volume) (events : List Happening) :
    (trackAll (ofVolume v, []) events).2.Leases (trackAll (ofVolume v, []) events).1 := by
  obtain ⟨hcoherent, hrecords⟩ :=
    records_trackAll (coherent_ofVolume v) (records_ofVolume v) events
  exact hrecords.leases hcoherent

/-- A snapshot that goes leaves a dead lease in the list until the next view is lent. -/
example :
    let session : SessionId := ⟨0⟩
    let opened := (Store.empty.openInMemory {}).1
    let gone := (opened.snapshot session).1.dropSnapshot ⟨0⟩
    gone.roster.leasesOf session = some [⟨0⟩] ∧ gone.isHeld ⟨0⟩ = false ∧
      (gone.iterate session none).1.roster.leasesOf session = some [⟨1⟩] := by
  decide +kernel

end OrderedStore
