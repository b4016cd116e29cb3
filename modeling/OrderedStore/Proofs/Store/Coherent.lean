import OrderedStore.Proofs.Store.Change

/-!
# Coherent rosters

A roster is coherent if its tables are well-formed, its leases belong to its borrowers
one to one, and every open session counts its own children.  The empty roster is
coherent, and every change of a roster keeps it so.

For each change there is also what it does to the views.  No borrower's view is
touched by anything but the borrower's own coming and going and the end of its session.
-/

set_option autoImplicit false

namespace OrderedStore.Roster

/-- The roster with nobody in it. -/
def empty : Roster := ⟨.empty, .empty, .empty, .empty⟩

/-- The number of snapshots of a session. -/
def snapshotsOf (r : Roster) (id : SessionId) : Nat := r.snapshots.count fun row => row.owner = id

/-- The number of iterators of a session. -/
def iteratorsOf (r : Roster) (id : SessionId) : Nat := r.iterators.count fun row => row.owner = id

/-- The numbers of snapshots and iterators that an open session keeps. -/
def counters? (r : Roster) (id : SessionId) : Option (Int × Int) :=
  (r.sessions.get? id).map fun session => (session.liveSnapshots, session.liveIterators)

/-- The invariant of rosters. -/
structure Coherent (r : Roster) : Prop where
  sessions : r.sessions.WellFormed
  leases : r.leases.WellFormed
  snapshots : r.snapshots.WellFormed
  iterators : r.iterators.WellFormed
  leased : r.Leased
  owner_lt : ∀ {b : Borrower} {id : SessionId}, r.owner? b = some id →
    id.number < r.sessions.next
  counted : ∀ {id : SessionId} {counters : Int × Int}, r.counters? id = some counters →
    counters = ((r.snapshotsOf id : Int), (r.iteratorsOf id : Int))

theorem coherent_empty : empty.Coherent where
  sessions := Table.wellFormed_empty
  leases := Table.wellFormed_empty
  snapshots := Table.wellFormed_empty
  iterators := Table.wellFormed_empty
  leased := by
    have howner : ∀ b, empty.owner? b = none := by
      intro b
      cases b <;> rfl
    have hlease : ∀ b, empty.lease? b = none := by
      intro b
      cases b <;> rfl
    have hlist : ∀ id, empty.leasesOf id = none := fun _ => rfl
    have hheld : ∀ lease, empty.isHeld lease = false := fun _ => rfl
    constructor <;> simp [howner, hlease, hlist, hheld]
  owner_lt := by
    intro b id ho
    cases b <;> simp [owner?, empty] at ho
  counted := by
    intro id counters h
    simp [counters?, empty] at h

theorem counters?_modifySession {r : Roster} {id : SessionId} {f : Session → Session}
    {g : Int × Int → Int × Int}
    (h : ∀ session, ((f session).liveSnapshots, (f session).liveIterators) =
      g (session.liveSnapshots, session.liveIterators)) (id' : SessionId) :
    (r.modifySession id f).counters? id' =
      if id' = id then (r.counters? id').map g else r.counters? id' := by
  unfold counters? modifySession
  rw [Table.get?_modify]
  split
  · rw [Option.map_map, Option.map_map]
    exact congrArg (Option.map · _) (funext h)
  · rfl

theorem wellFormed_modifySession {r : Roster} {id : SessionId} {f : Session → Session}
    (h : r.sessions.WellFormed) : (r.modifySession id f).sessions.WellFormed :=
  h.modify id f

theorem wellFormed_lend {r : Roster} {id : SessionId} {view : Keyspace}
    (h : r.sessions.WellFormed) : (r.lend id view).sessions.WellFormed :=
  h.modify id fun session =>
    { session with leases := session.leases.filter r.isHeld ++ [r.leases.fresh] }

namespace Coherent

variable {r : Roster}

/-! ## Sessions -/

theorem modifyEngine (h : r.Coherent) (id : SessionId) (f : Engine → Engine) :
    (r.modifyEngine id f).Coherent where
  sessions := wellFormed_modifySession h.sessions
  leases := h.leases
  snapshots := h.snapshots
  iterators := h.iterators
  leased := h.leased.congr owner?_modifySession lease?_modifySession rfl
    (leasesOf_modifySession (by intro; rfl))
  owner_lt ho := by
    rw [Roster.modifyEngine, owner?_modifySession] at ho
    exact h.owner_lt ho
  counted {id' counters} hc := by
    rw [Roster.modifyEngine, counters?_modifySession (g := fun c => c) (by intro; rfl)] at hc
    rw [Option.map_id', ite_self] at hc
    exact h.counted hc

theorem viewOf_modifyEngine (id : SessionId) (f : Engine → Engine) (b : Borrower) :
    (r.modifyEngine id f).viewOf b = r.viewOf b :=
  Leased.viewOf_congr lease?_modifySession rfl b

theorem skipSession (h : r.Coherent) : r.skipSession.Coherent where
  sessions := h.sessions.skip
  leases := h.leases
  snapshots := h.snapshots
  iterators := h.iterators
  leased := h.leased.congr (by intro b; cases b <;> rfl) (by intro b; cases b <;> rfl) rfl
    (by intro; rfl)
  owner_lt {b id} ho := by
    have ho' : r.owner? b = some id := by cases b <;> exact ho
    exact Nat.lt_succ_of_lt (h.owner_lt ho')
  counted hc := h.counted hc

/-- Nothing belongs to a session that is still to come. -/
theorem not_owner_fresh (h : r.Coherent) (b : Borrower) : r.owner? b ≠ some r.sessions.fresh :=
  fun ho => absurd (h.owner_lt ho) (Nat.lt_irrefl _)

theorem snapshotsOf_fresh (h : r.Coherent) : r.snapshotsOf r.sessions.fresh = 0 := by
  refine Table.count_eq_zero h.snapshots fun id row hget => ?_
  have hne := h.not_owner_fresh (.snapshot id)
  rw [owner?, hget] at hne
  simpa using hne

theorem iteratorsOf_fresh (h : r.Coherent) : r.iteratorsOf r.sessions.fresh = 0 := by
  refine Table.count_eq_zero h.iterators fun id row hget => ?_
  have hne := h.not_owner_fresh (.iterator id)
  rw [owner?, hget] at hne
  simpa using hne

theorem openSession (h : r.Coherent) {session : Session} (hleases : session.leases = [])
    (hsnapshots : session.liveSnapshots = 0) (hiterators : session.liveIterators = 0) :
    (r.openSession session).Coherent where
  sessions := h.sessions.insert session
  leases := h.leases
  snapshots := h.snapshots
  iterators := h.iterators
  leased := by
    refine h.leased.openSession h.not_owner_fresh (owner?_openSession session)
      (lease?_openSession session) rfl fun id => ?_
    rw [leasesOf_openSession, hleases]
  owner_lt ho := by
    rw [owner?_openSession] at ho
    exact Nat.lt_succ_of_lt (h.owner_lt ho)
  counted {id counters} hc := by
    unfold counters? Roster.openSession at hc
    rw [Table.get?_insert] at hc
    split at hc
    · rename_i heq
      subst heq
      rw [Option.map_some, hsnapshots, hiterators] at hc
      rw [← Option.some.inj hc]
      show _ = (((r.snapshotsOf r.sessions.fresh : Nat) : Int),
        ((r.iteratorsOf r.sessions.fresh : Nat) : Int))
      rw [h.snapshotsOf_fresh, h.iteratorsOf_fresh]
      rfl
    · exact h.counted hc

theorem viewOf_openSession (session : Session) (b : Borrower) :
    (r.openSession session).viewOf b = r.viewOf b :=
  Leased.viewOf_congr (lease?_openSession session) rfl b

theorem revokeAll_leases (h : r.Coherent) (leases : List LeaseId) :
    (r.revokeAll leases).leases.WellFormed := by
  show (leases.foldl _ r.leases).WellFormed
  have hwell := h.leases
  generalize r.leases = t at hwell
  induction leases generalizing t with
  | nil => exact hwell
  | cons lease rest ih => exact ih _ (hwell.modify lease _)

theorem endSession (h : r.Coherent) (id : SessionId) : (r.endSession id).Coherent := by
  cases hsession : r.sessions.get? id with
  | none =>
    have hsame : r.endSession id = r := by simp only [Roster.endSession, hsession]
    rw [hsame]
    exact h
  | some session =>
    have hlist := leasesOf_of_session hsession
    have hend : r.endSession id = { r.revokeAll (session.leases.filter r.isHeld) with
        sessions := r.sessions.erase id } := by simp only [Roster.endSession, hsession]
    have hnext : (r.endSession id).leases.next = r.leases.next := by
      rw [hend]
      exact next_revokeAll _
    constructor
    case sessions =>
      rw [hend]
      exact h.sessions.erase id
    case leases =>
      rw [hend]
      exact h.revokeAll_leases _
    case snapshots =>
      rw [hend]
      exact h.snapshots
    case iterators =>
      rw [hend]
      exact h.iterators
    case leased =>
      exact h.leased.endSession hlist (owner?_endSession id) (lease?_endSession id)
        (get?_leases_endSession hlist) hnext (leasesOf_endSession id)
    case owner_lt =>
      intro b id' ho
      rw [owner?_endSession] at ho
      rw [hend]
      exact h.owner_lt ho
    case counted =>
      intro id' counters hc
      have hold : r.counters? id' = some counters := by
        unfold counters? at hc ⊢
        rw [get?_sessions_endSession] at hc
        split at hc
        · simp at hc
        · exact hc
      rw [hend]
      exact h.counted hold

theorem viewOf_endSession (h : r.Coherent) {id : SessionId} (hopen : r.isOpen id = true)
    (b : Borrower) :
    (r.endSession id).viewOf b = if r.owner? b = some id then none else r.viewOf b := by
  obtain ⟨session, hsession⟩ := isOpen_eq_true_iff.mp hopen
  have hlist := leasesOf_of_session hsession
  exact h.leased.viewOf_endSession hlist (lease?_endSession id) (get?_leases_endSession hlist) b

/-! ## New borrowers -/

theorem owner?_snapshot_fresh (h : r.Coherent) : r.owner? (.snapshot r.snapshots.fresh) = none := by
  rw [owner?, h.snapshots.get?_fresh]
  rfl

theorem owner?_iterator_fresh (h : r.Coherent) : r.owner? (.iterator r.iterators.fresh) = none := by
  rw [owner?, h.iterators.get?_fresh]
  rfl

section Add

variable {id : SessionId}

theorem addSnapshot (h : r.Coherent) (hopen : r.isOpen id = true) (view : Keyspace) :
    (r.addSnapshot id view).Coherent where
  sessions := wellFormed_lend (r := r.modifySession id _) (wellFormed_modifySession h.sessions)
  leases := h.leases.insert _
  snapshots := h.snapshots.insert _
  iterators := h.iterators
  leased := by
    rw [isOpen_eq_isSome_leasesOf] at hopen
    obtain ⟨leases, hlist⟩ := Option.isSome_iff_exists.mp hopen
    refine h.leased.add h.leases hlist h.owner?_snapshot_fresh (owner?_addSnapshot id view)
      (lease?_addSnapshot id view) rfl fun id' => ?_
    rw [leasesOf_addSnapshot, hlist]
    rfl
  owner_lt {b owner} ho := by
    rw [owner?_addSnapshot] at ho
    split at ho
    · obtain ⟨session, hsession⟩ := isOpen_eq_true_iff.mp hopen
      rw [← Option.some.inj ho]
      exact h.sessions.number_lt hsession
    · exact h.owner_lt ho
  counted {id' counters} hc := by
    have hcount : (r.addSnapshot id view).snapshotsOf id' =
        r.snapshotsOf id' + if id = id' then 1 else 0 := by
      rw [snapshotsOf, Roster.addSnapshot, Table.count_insert]
      simp [snapshotsOf]
    have hcounters : (r.addSnapshot id view).counters? id' =
        if id' = id then (r.counters? id').map fun c => (c.1 + 1, c.2) else r.counters? id' := by
      refine (counters?_modifySession (g := fun c => c) (by intro; rfl) id').trans ?_
      rw [Option.map_id', ite_self]
      exact counters?_modifySession (r := r) (by intro; rfl) id'
    rw [hcount]
    rw [hcounters] at hc
    split at hc
    · rename_i heq
      obtain ⟨old, hold, rfl⟩ := Option.map_eq_some_iff.mp hc
      rw [h.counted hold, if_pos heq.symm]
      simp only [Int.natCast_add, Int.cast_ofNat_Int]
      rfl
    · rename_i hne
      rw [if_neg (Ne.symm hne)]
      exact h.counted hc

theorem viewOf_addSnapshot (h : r.Coherent) (view : Keyspace) (b : Borrower) :
    (r.addSnapshot id view).viewOf b =
      if b = .snapshot r.snapshots.fresh then some view else r.viewOf b :=
  h.leased.viewOf_add h.leases (lease?_addSnapshot id view) rfl b

theorem leased_addIterator (h : r.Coherent) (hopen : r.isOpen id = true)
    (view : Except Error Keyspace) : (r.addIterator id view).Leased := by
  cases view with
  | ok view =>
    rw [isOpen_eq_isSome_leasesOf] at hopen
    obtain ⟨leases, hlist⟩ := Option.isSome_iff_exists.mp hopen
    refine h.leased.add h.leases hlist h.owner?_iterator_fresh (owner?_addIterator id _)
      (lease?_addIterator_ok id view) rfl fun id' => ?_
    rw [leasesOf_addIterator_ok, hlist]
    rfl
  | error e =>
    exact h.leased.addBare h.owner?_iterator_fresh (owner?_addIterator id _)
      (lease?_addIterator_error id e) rfl (leasesOf_addIterator_error id e)

theorem addIterator (h : r.Coherent) (hopen : r.isOpen id = true)
    (view : Except Error Keyspace) : (r.addIterator id view).Coherent where
  sessions := by
    cases view with
    | ok view =>
      exact wellFormed_lend (r := r.modifySession id _) (wellFormed_modifySession h.sessions)
    | error e =>
      exact h.sessions.modify id fun session =>
        { session with liveIterators := session.liveIterators + 1 }
  leases := by
    cases view with
    | ok view => exact h.leases.insert _
    | error e => exact h.leases
  snapshots := by
    cases view <;> exact h.snapshots
  iterators := by
    cases view <;> exact h.iterators.insert _
  leased := h.leased_addIterator hopen view
  owner_lt {b owner} ho := by
    have hnext : (r.addIterator id view).sessions.next = r.sessions.next := by cases view <;> rfl
    rw [owner?_addIterator] at ho
    rw [hnext]
    split at ho
    · obtain ⟨session, hsession⟩ := isOpen_eq_true_iff.mp hopen
      rw [← Option.some.inj ho]
      exact h.sessions.number_lt hsession
    · exact h.owner_lt ho
  counted {id' counters} hc := by
    have hcount : (r.addIterator id view).iteratorsOf id' =
        r.iteratorsOf id' + if id = id' then 1 else 0 := by
      cases view <;>
      · rw [iteratorsOf, Roster.addIterator, Table.count_insert]
        simp [iteratorsOf]
    have hsnapshots : (r.addIterator id view).snapshotsOf id' = r.snapshotsOf id' := by
      cases view <;> rfl
    have hcounters : (r.addIterator id view).counters? id' =
        if id' = id then (r.counters? id').map fun c => (c.1, c.2 + 1) else r.counters? id' := by
      cases view with
      | ok view =>
        refine (counters?_modifySession (g := fun c => c) (by intro; rfl) id').trans ?_
        rw [Option.map_id', ite_self]
        exact counters?_modifySession (r := r) (by intro; rfl) id'
      | error e => exact counters?_modifySession (r := r) (by intro; rfl) id'
    rw [hcount, hsnapshots]
    rw [hcounters] at hc
    split at hc
    · rename_i heq
      obtain ⟨old, hold, rfl⟩ := Option.map_eq_some_iff.mp hc
      rw [h.counted hold, if_pos heq.symm]
      simp only [Int.natCast_add, Int.cast_ofNat_Int]
    · rename_i hne
      rw [if_neg (Ne.symm hne)]
      exact h.counted hc

theorem viewOf_addIterator (h : r.Coherent) (view : Except Error Keyspace) (b : Borrower) :
    (r.addIterator id view).viewOf b =
      if b = .iterator r.iterators.fresh then view.toOption else r.viewOf b := by
  cases view with
  | ok view => exact h.leased.viewOf_add h.leases (lease?_addIterator_ok id view) rfl b
  | error e =>
    unfold viewOf view?
    rw [lease?_addIterator_error]
    split <;> rfl

end Add

/-! ## Borrowers that go -/

theorem dropSnapshot (h : r.Coherent) (snapshot : SnapshotId) :
    (r.dropSnapshot snapshot).Coherent := by
  cases hrow : r.snapshots.get? snapshot with
  | none =>
    have hsame : r.dropSnapshot snapshot = r := by simp only [Roster.dropSnapshot, hrow]
    rw [hsame]
    exact h
  | some row =>
    have hdrop : r.dropSnapshot snapshot =
        { (r.giveUp row.lease).modifySession row.owner fun session =>
            { session with liveSnapshots := session.liveSnapshots - 1 } with
          snapshots := r.snapshots.erase snapshot } := by simp only [Roster.dropSnapshot, hrow]
    have hlease : r.lease? (.snapshot snapshot) = some row.lease := by rw [lease?, hrow]; rfl
    constructor
    case sessions =>
      rw [hdrop]
      exact h.sessions.modify row.owner fun session =>
        { session with liveSnapshots := session.liveSnapshots - 1 }
    case leases =>
      rw [hdrop]
      exact h.leases.erase _
    case snapshots =>
      rw [hdrop]
      exact h.snapshots.erase _
    case iterators =>
      rw [hdrop]
      exact h.iterators
    case leased =>
      exact h.leased.remove hlease (owner?_dropSnapshot snapshot) (lease?_dropSnapshot snapshot)
        (leases_dropSnapshot hrow) (leasesOf_dropSnapshot snapshot)
    case owner_lt =>
      intro b id ho
      rw [owner?_dropSnapshot] at ho
      rw [hdrop]
      split at ho
      · simp at ho
      · exact h.owner_lt ho
    case counted =>
      intro id counters hc
      have hcount := Table.count_erase h.snapshots hrow fun row => decide (row.owner = id)
      have hcounters : (r.dropSnapshot snapshot).counters? id =
          if id = row.owner then (r.counters? id).map fun c => (c.1 - 1, c.2)
          else r.counters? id := by
        rw [hdrop]
        exact counters?_modifySession (r := r) (by intro; rfl) id
      have hsnapshots : (r.dropSnapshot snapshot).snapshotsOf id =
          (r.snapshots.erase snapshot).count fun row => decide (row.owner = id) := by
        rw [hdrop]
        rfl
      have hiterators : (r.dropSnapshot snapshot).iteratorsOf id = r.iteratorsOf id := by
        rw [hdrop]
        rfl
      rw [hsnapshots, hiterators]
      rw [hcounters] at hc
      split at hc
      · rename_i heq
        obtain ⟨old, hold, rfl⟩ := Option.map_eq_some_iff.mp hc
        rw [h.counted hold]
        rw [if_pos (by simp [heq])] at hcount
        rw [snapshotsOf, ← hcount]
        simp
      · rename_i hne
        rw [if_neg (by simpa using Ne.symm hne)] at hcount
        rw [h.counted hc, snapshotsOf, ← hcount]
        rfl

theorem viewOf_dropSnapshot (h : r.Coherent) (snapshot : SnapshotId) (b : Borrower) :
    (r.dropSnapshot snapshot).viewOf b =
      if b = .snapshot snapshot then none else r.viewOf b := by
  cases hrow : r.snapshots.get? snapshot with
  | none =>
    have hsame : r.dropSnapshot snapshot = r := by simp only [Roster.dropSnapshot, hrow]
    rw [hsame]
    split
    · rename_i heq
      rw [heq, viewOf, lease?, hrow]
      rfl
    · rfl
  | some row =>
    have hlease : r.lease? (.snapshot snapshot) = some row.lease := by rw [lease?, hrow]; rfl
    exact h.leased.viewOf_remove hlease (lease?_dropSnapshot snapshot)
      (leases_dropSnapshot hrow) b

theorem leased_dropIterator (h : r.Coherent) (iterator : IteratorId) :
    (r.dropIterator iterator).Leased := by
  cases hrow : r.iterators.get? iterator with
  | none =>
    have hsame : r.dropIterator iterator = r := by simp only [Roster.dropIterator, hrow]
    rw [hsame]
    exact h.leased
  | some row =>
    cases hview : row.view with
    | ok lease =>
      have hlease : r.lease? (.iterator iterator) = some lease := by
        simp [lease?, hrow, hview, Except.toOption]
      exact h.leased.remove hlease (owner?_dropIterator iterator) (lease?_dropIterator iterator)
        (leases_dropIterator_ok hrow hview) (leasesOf_dropIterator iterator)
    | error e =>
      have hlease : r.lease? (.iterator iterator) = none := by
        simp [lease?, hrow, hview, Except.toOption]
      exact h.leased.removeBare hlease (owner?_dropIterator iterator)
        (lease?_dropIterator iterator) (leases_dropIterator_error hrow hview)
        (leasesOf_dropIterator iterator)

theorem dropIterator (h : r.Coherent) (iterator : IteratorId) :
    (r.dropIterator iterator).Coherent := by
  cases hrow : r.iterators.get? iterator with
  | none =>
    have hsame : r.dropIterator iterator = r := by simp only [Roster.dropIterator, hrow]
    rw [hsame]
    exact h
  | some row =>
    obtain ⟨owner, view, cursor⟩ := row
    have hsessions : (r.dropIterator iterator).sessions = r.sessions.modify owner fun session =>
        { session with liveIterators := session.liveIterators - 1 } := by
      simp only [Roster.dropIterator, hrow]
      cases view <;> rfl
    have hleases : (r.dropIterator iterator).leases.WellFormed := by
      simp only [Roster.dropIterator, hrow]
      cases view with
      | ok lease => exact h.leases.erase lease
      | error e => exact h.leases
    have hsnapshots : (r.dropIterator iterator).snapshots = r.snapshots := by
      simp only [Roster.dropIterator, hrow]
      cases view <;> rfl
    have hiterators : (r.dropIterator iterator).iterators = r.iterators.erase iterator := by
      simp only [Roster.dropIterator, hrow]
    refine ⟨?_, hleases, ?_, ?_, h.leased_dropIterator iterator, ?_, ?_⟩
    · rw [hsessions]
      exact h.sessions.modify _ _
    · rw [hsnapshots]
      exact h.snapshots
    · rw [hiterators]
      exact h.iterators.erase _
    · intro b id ho
      rw [owner?_dropIterator] at ho
      rw [hsessions]
      split at ho
      · simp at ho
      · exact h.owner_lt ho
    · intro id counters hc
      have hcount := Table.count_erase h.iterators hrow fun row => decide (row.owner = id)
      have hcounters : (r.dropIterator iterator).counters? id =
          if id = owner then (r.counters? id).map fun c => (c.1, c.2 - 1)
          else r.counters? id := by
        rw [counters?, hsessions]
        exact counters?_modifySession (r := r) (by intro; rfl) id
      rw [snapshotsOf, hsnapshots, iteratorsOf, hiterators]
      rw [hcounters] at hc
      split at hc
      · rename_i heq
        obtain ⟨old, hold, rfl⟩ := Option.map_eq_some_iff.mp hc
        rw [h.counted hold]
        rw [if_pos (by simp [heq])] at hcount
        rw [iteratorsOf, ← hcount]
        simp [snapshotsOf]
      · rename_i hne
        rw [if_neg (by simpa using Ne.symm hne)] at hcount
        rw [h.counted hc, iteratorsOf, ← hcount]
        rfl

theorem viewOf_dropIterator (h : r.Coherent) (iterator : IteratorId) (b : Borrower) :
    (r.dropIterator iterator).viewOf b =
      if b = .iterator iterator then none else r.viewOf b := by
  cases hlease : r.lease? (.iterator iterator) with
  | none =>
    have hleases : (r.dropIterator iterator).leases = r.leases := by
      cases hrow : r.iterators.get? iterator with
      | none => simp only [Roster.dropIterator, hrow]
      | some row =>
        cases hview : row.view with
        | ok lease => simp [lease?, hrow, hview, Except.toOption] at hlease
        | error e => exact leases_dropIterator_error hrow hview
    unfold viewOf view?
    rw [lease?_dropIterator, hleases]
    split <;> rfl
  | some lease =>
    obtain ⟨row, hrow, hview⟩ := Option.bind_eq_some_iff.mp hlease
    cases hcase : row.view with
    | error e => simp [hcase, Except.toOption] at hview
    | ok lease' =>
      have heq : lease' = lease := by simpa [hcase, Except.toOption] using hview
      rw [heq] at hcase
      exact h.leased.viewOf_remove hlease (lease?_dropIterator iterator)
        (leases_dropIterator_ok hrow hcase) b

/-! ## Moving -/

theorem setCursor (h : r.Coherent) (iterator : IteratorId) (cursor : Cursor) :
    (r.setCursor iterator cursor).Coherent where
  sessions := h.sessions
  leases := h.leases
  snapshots := h.snapshots
  iterators := h.iterators.modify iterator fun row => { row with cursor := cursor }
  leased := h.leased.congr (owner?_setCursor iterator cursor) (lease?_setCursor iterator cursor) rfl
    (by intro; rfl)
  owner_lt ho := by
    rw [owner?_setCursor] at ho
    exact h.owner_lt ho
  counted {id counters} hc := by
    have hiterators : (r.setCursor iterator cursor).iteratorsOf id = r.iteratorsOf id :=
      Table.count_modify r.iterators iterator (fun row => { row with cursor := cursor }) _
        (by intro; rfl)
    rw [hiterators]
    exact h.counted hc

theorem viewOf_setCursor (iterator : IteratorId) (cursor : Cursor) (b : Borrower) :
    (r.setCursor iterator cursor).viewOf b = r.viewOf b :=
  Leased.viewOf_congr (lease?_setCursor iterator cursor) rfl b

end Coherent

end OrderedStore.Roster
