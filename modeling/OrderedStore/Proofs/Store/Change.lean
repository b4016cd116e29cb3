import OrderedStore.Proofs.Store.Lease

/-!
# What a change of a roster shows

For each way in which a roster changes there is one lemma for each way of looking at it:
who owns a borrower, which lease it has, which leases a session has listed, what a session's
engine is and where a cursor stands.
-/

set_option autoImplicit false

namespace OrderedStore.Roster

variable {r : Roster}

theorem isOpen_eq_isSome_engine? (r : Roster) (id : SessionId) :
    r.isOpen id = (r.engine? id).isSome := by
  unfold isOpen engine?
  cases r.sessions.get? id <;> rfl

theorem isOpen_eq_true_iff {id : SessionId} :
    r.isOpen id = true ↔ ∃ session, r.sessions.get? id = some session :=
  Option.isSome_iff_exists

/-! ## Sessions -/

section ModifySession

variable {id : SessionId} {f : Session → Session}

theorem owner?_modifySession (b : Borrower) :
    (r.modifySession id f).owner? b = r.owner? b := by
  cases b <;> rfl

theorem lease?_modifySession (b : Borrower) :
    (r.modifySession id f).lease? b = r.lease? b := by
  cases b <;> rfl

theorem isOpen_modifySession (id' : SessionId) :
    (r.modifySession id f).isOpen id' = r.isOpen id' := by
  unfold isOpen modifySession
  rw [Table.get?_modify]
  split
  · rw [Option.isSome_map]
  · rfl

theorem leasesOf_modifySession (h : ∀ session, (f session).leases = session.leases)
    (id' : SessionId) : (r.modifySession id f).leasesOf id' = r.leasesOf id' := by
  unfold leasesOf modifySession
  rw [Table.get?_modify]
  split
  · rw [Option.map_map]
    exact congrArg (Option.map · _) (funext h)
  · rfl

theorem engine?_modifySession
    (h : ∀ session, (f session).engine = session.engine) (id' : SessionId) :
    (r.modifySession id f).engine? id' = r.engine? id' := by
  unfold engine? modifySession
  rw [Table.get?_modify]
  split
  · rw [Option.map_map]
    exact congrArg (Option.map · _) (funext h)
  · rfl

end ModifySession

theorem engine?_modifyEngine {id : SessionId} {f : Engine → Engine} (id' : SessionId) :
    (r.modifyEngine id f).engine? id' =
      if id' = id then (r.engine? id).map f
      else r.engine? id' := by
  unfold engine? modifyEngine modifySession
  rw [Table.get?_modify]
  split
  · rename_i heq
    rw [Option.map_map, Option.map_map, heq]
    rfl
  · rfl

theorem owner?_openSession (session : Session) (b : Borrower) :
    (r.openSession session).owner? b = r.owner? b := by
  cases b <;> rfl

theorem lease?_openSession (session : Session) (b : Borrower) :
    (r.openSession session).lease? b = r.lease? b := by
  cases b <;> rfl

theorem leasesOf_openSession (session : Session) (id : SessionId) :
    (r.openSession session).leasesOf id =
      if id = r.sessions.fresh then some session.leases else r.leasesOf id := by
  unfold leasesOf openSession
  rw [Table.get?_insert]
  split <;> rfl

theorem engine?_openSession (session : Session) (id : SessionId) :
    (r.openSession session).engine? id =
      if id = r.sessions.fresh then some session.engine else r.engine? id := by
  unfold engine? openSession
  rw [Table.get?_insert]
  split <;> rfl

theorem get?_revokeAll (leases : List LeaseId) (lease : LeaseId) :
    (r.revokeAll leases).leases.get? lease =
      (r.leases.get? lease).map fun row => if lease ∈ leases then .revoked else row := by
  show (leases.foldl _ r.leases).get? lease = _
  generalize r.leases = t
  induction leases generalizing t with
  | nil => simp
  | cons first rest ih =>
    rw [List.foldl_cons, ih, Table.get?_modify]
    by_cases h : lease = first
    · rw [if_pos h, Option.map_map]
      cases t.get? lease <;> simp [h]
    · rw [if_neg h]
      simp [h]

theorem next_revokeAll (leases : List LeaseId) :
    (r.revokeAll leases).leases.next = r.leases.next := by
  show (leases.foldl _ r.leases).next = _
  generalize r.leases = t
  induction leases generalizing t with
  | nil => rfl
  | cons first rest ih =>
    rw [List.foldl_cons, ih]
    rfl

theorem owner?_endSession (id : SessionId) (b : Borrower) :
    (r.endSession id).owner? b = r.owner? b := by
  unfold endSession
  cases r.sessions.get? id <;> cases b <;> rfl

theorem lease?_endSession (id : SessionId) (b : Borrower) :
    (r.endSession id).lease? b = r.lease? b := by
  unfold endSession
  cases r.sessions.get? id <;> cases b <;> rfl

theorem iterators_endSession (id : SessionId) : (r.endSession id).iterators = r.iterators := by
  unfold endSession
  split <;> rfl

theorem cursor?_endSession (id : SessionId) (iterator : IteratorId) :
    (r.endSession id).cursor? iterator = r.cursor? iterator := by
  unfold endSession
  cases r.sessions.get? id <;> rfl

theorem get?_leases_endSession {id : SessionId} {leases : List LeaseId}
    (hlist : r.leasesOf id = some leases) (lease : LeaseId) :
    (r.endSession id).leases.get? lease =
      (r.leases.get? lease).map fun row => if lease ∈ leases then .revoked else row := by
  obtain ⟨session, hsession, rfl⟩ := Option.map_eq_some_iff.mp hlist
  simp only [endSession, hsession]
  rw [get?_revokeAll]
  cases hlease : r.leases.get? lease with
  | none => rfl
  | some row =>
    have hheld : r.isHeld lease = true := isHeld_eq_true_iff.mpr ⟨row, hlease⟩
    simp [List.mem_filter, hheld]

theorem get?_sessions_endSession (id id' : SessionId) :
    (r.endSession id).sessions.get? id' = if id' = id then none else r.sessions.get? id' := by
  unfold endSession
  cases hsession : r.sessions.get? id with
  | none =>
    show r.sessions.get? id' = _
    split
    · rename_i heq
      rw [heq, hsession]
    · rfl
  | some session => exact r.sessions.get?_erase id id'

theorem leasesOf_endSession (id id' : SessionId) :
    (r.endSession id).leasesOf id' = if id' = id then none else r.leasesOf id' := by
  unfold leasesOf
  rw [get?_sessions_endSession]
  split <;> rfl

theorem engine?_endSession (id id' : SessionId) :
    (r.endSession id).engine? id' = if id' = id then none else r.engine? id' := by
  unfold engine?
  rw [get?_sessions_endSession]
  split <;> rfl

theorem isOpen_endSession (id id' : SessionId) :
    (r.endSession id).isOpen id' = if id' = id then false else r.isOpen id' := by
  rw [isOpen_eq_isSome_engine?, engine?_endSession]
  split
  · rfl
  · rw [isOpen_eq_isSome_engine?]

/-! ## New borrowers -/

theorem leasesOf_lend (id : SessionId) (view : Keyspace) (id' : SessionId) :
    (r.lend id view).leasesOf id' =
      if id' = id then (r.leasesOf id).map fun leases => leases.filter r.isHeld ++ [r.leases.fresh]
      else r.leasesOf id' := by
  unfold leasesOf lend modifySession
  rw [Table.get?_modify]
  split
  · rename_i heq
    rw [Option.map_map, Option.map_map, heq]
    rfl
  · rfl

theorem engine?_lend (id : SessionId) (view : Keyspace) (id' : SessionId) :
    (r.lend id view).engine? id' = r.engine? id' :=
  engine?_modifySession (r := { r with leases := r.leases.insert (.of view) })
    (by intro; rfl) id'

section AddSnapshot

variable (id : SessionId) (view : Keyspace)

theorem owner?_addSnapshot (b : Borrower) :
    (r.addSnapshot id view).owner? b =
      if b = .snapshot r.snapshots.fresh then some id else r.owner? b := by
  cases b with
  | snapshot snapshot =>
    simp only [addSnapshot, owner?, Table.get?_insert, Borrower.snapshot.injEq]
    split <;> rfl
  | iterator iterator =>
    rw [if_neg (by simp)]
    rfl

theorem lease?_addSnapshot (b : Borrower) :
    (r.addSnapshot id view).lease? b =
      if b = .snapshot r.snapshots.fresh then some r.leases.fresh else r.lease? b := by
  cases b with
  | snapshot snapshot =>
    simp only [addSnapshot, lease?, Table.get?_insert, Borrower.snapshot.injEq]
    split <;> rfl
  | iterator iterator =>
    rw [if_neg (by simp)]
    rfl

theorem leasesOf_addSnapshot (id' : SessionId) :
    (r.addSnapshot id view).leasesOf id' =
      if id' = id then (r.leasesOf id).map fun leases => leases.filter r.isHeld ++ [r.leases.fresh]
      else r.leasesOf id' := by
  have hcounted : ∀ id', (r.modifySession id fun session =>
      { session with liveSnapshots := session.liveSnapshots + 1 }).leasesOf id' = r.leasesOf id' :=
    leasesOf_modifySession (by intro; rfl)
  refine (leasesOf_lend id view id').trans ?_
  rw [hcounted, hcounted]
  rfl

theorem engine?_addSnapshot (id' : SessionId) :
    (r.addSnapshot id view).engine? id' = r.engine? id' :=
  (engine?_lend id view id').trans (engine?_modifySession (by intro; rfl) id')

end AddSnapshot

section AddIterator

variable (id : SessionId) (view : Except Error Keyspace)

theorem owner?_addIterator (b : Borrower) :
    (r.addIterator id view).owner? b =
      if b = .iterator r.iterators.fresh then some id else r.owner? b := by
  cases b with
  | snapshot snapshot =>
    rw [if_neg (by simp)]
    cases view <;> rfl
  | iterator iterator =>
    cases view <;>
    · simp only [addIterator, owner?, Table.get?_insert, Borrower.iterator.injEq]
      split <;> rfl

theorem lease?_addIterator (b : Borrower) :
    (r.addIterator id view).lease? b =
      if b = .iterator r.iterators.fresh then view.toOption.map fun _ => r.leases.fresh
      else r.lease? b := by
  cases b with
  | snapshot snapshot =>
    rw [if_neg (by simp)]
    cases view <;> rfl
  | iterator iterator =>
    cases view <;>
    · simp only [addIterator, lease?, Table.get?_insert, Borrower.iterator.injEq]
      split <;> rfl

theorem lease?_addIterator_ok (view : Keyspace) (b : Borrower) :
    (r.addIterator id (.ok view)).lease? b =
      if b = .iterator r.iterators.fresh then some r.leases.fresh else r.lease? b :=
  lease?_addIterator id (.ok view) b

theorem lease?_addIterator_error (e : Error) (b : Borrower) :
    (r.addIterator id (.error e)).lease? b =
      if b = .iterator r.iterators.fresh then none else r.lease? b :=
  lease?_addIterator id (.error e) b

theorem leasesOf_addIterator_ok (view : Keyspace) (id' : SessionId) :
    (r.addIterator id (.ok view)).leasesOf id' =
      if id' = id then (r.leasesOf id).map fun leases => leases.filter r.isHeld ++ [r.leases.fresh]
      else r.leasesOf id' := by
  have hcounted : ∀ id', (r.modifySession id fun session =>
      { session with liveIterators := session.liveIterators + 1 }).leasesOf id' = r.leasesOf id' :=
    leasesOf_modifySession (by intro; rfl)
  refine (leasesOf_lend id view id').trans ?_
  rw [hcounted, hcounted]
  rfl

theorem leasesOf_addIterator_error (e : Error) (id' : SessionId) :
    (r.addIterator id (.error e)).leasesOf id' = r.leasesOf id' :=
  leasesOf_modifySession (r := r) (by intro; rfl) id'

theorem engine?_addIterator (id' : SessionId) :
    (r.addIterator id view).engine? id' = r.engine? id' := by
  cases view with
  | ok view => exact (engine?_lend id view id').trans (engine?_modifySession (by intro; rfl) id')
  | error e => exact engine?_modifySession (r := r) (by intro; rfl) id'

theorem cursor?_addIterator (iterator : IteratorId) :
    (r.addIterator id view).cursor? iterator =
      if iterator = r.iterators.fresh then
        some (match view with
          | .ok _ => .unpositioned
          | .error e => .degraded e)
      else r.cursor? iterator := by
  cases view <;>
  · simp only [addIterator, cursor?, Table.get?_insert]
    split <;> rfl

end AddIterator

/-! ## Borrowers that go -/

section DropSnapshot

variable {snapshot : SnapshotId} {row : Snapshot}

theorem owner?_dropSnapshot (snapshot : SnapshotId) (b : Borrower) :
    (r.dropSnapshot snapshot).owner? b =
      if b = .snapshot snapshot then none else r.owner? b := by
  unfold dropSnapshot
  cases hrow : r.snapshots.get? snapshot with
  | none =>
    show r.owner? b = _
    split
    · rename_i heq
      rw [heq, owner?, hrow]
      rfl
    · rfl
  | some row =>
    cases b with
    | snapshot other =>
      simp only [owner?, Table.get?_erase, Borrower.snapshot.injEq]
      split <;> rfl
    | iterator other =>
      rw [if_neg (by simp)]
      rfl

theorem lease?_dropSnapshot (snapshot : SnapshotId) (b : Borrower) :
    (r.dropSnapshot snapshot).lease? b =
      if b = .snapshot snapshot then none else r.lease? b := by
  unfold dropSnapshot
  cases hrow : r.snapshots.get? snapshot with
  | none =>
    show r.lease? b = _
    split
    · rename_i heq
      rw [heq, lease?, hrow]
      rfl
    · rfl
  | some row =>
    cases b with
    | snapshot other =>
      simp only [lease?, Table.get?_erase, Borrower.snapshot.injEq]
      split <;> rfl
    | iterator other =>
      rw [if_neg (by simp)]
      rfl

theorem leases_dropSnapshot (hrow : r.snapshots.get? snapshot = some row) :
    (r.dropSnapshot snapshot).leases = r.leases.erase row.lease := by
  simp only [dropSnapshot, hrow]
  rfl

theorem leasesOf_dropSnapshot (snapshot : SnapshotId) (id : SessionId) :
    (r.dropSnapshot snapshot).leasesOf id = r.leasesOf id := by
  unfold dropSnapshot
  cases hrow : r.snapshots.get? snapshot with
  | none => rfl
  | some row => exact leasesOf_modifySession (r := r) (by intro; rfl) id

theorem engine?_dropSnapshot (snapshot : SnapshotId) (id : SessionId) :
    (r.dropSnapshot snapshot).engine? id = r.engine? id := by
  unfold dropSnapshot
  cases hrow : r.snapshots.get? snapshot with
  | none => rfl
  | some row => exact engine?_modifySession (r := r) (by intro; rfl) id

theorem iterators_dropSnapshot (snapshot : SnapshotId) :
    (r.dropSnapshot snapshot).iterators = r.iterators := by
  unfold dropSnapshot
  split <;> rfl

theorem cursor?_dropSnapshot (snapshot : SnapshotId) (iterator : IteratorId) :
    (r.dropSnapshot snapshot).cursor? iterator = r.cursor? iterator := by
  unfold dropSnapshot
  cases hrow : r.snapshots.get? snapshot <;> rfl

end DropSnapshot

section DropIterator

variable {iterator : IteratorId} {row : Iterator}

theorem owner?_dropIterator (iterator : IteratorId) (b : Borrower) :
    (r.dropIterator iterator).owner? b =
      if b = .iterator iterator then none else r.owner? b := by
  unfold dropIterator
  cases hrow : r.iterators.get? iterator with
  | none =>
    show r.owner? b = _
    split
    · rename_i heq
      rw [heq, owner?, hrow]
      rfl
    · rfl
  | some row =>
    obtain ⟨owner, view, cursor⟩ := row
    cases b with
    | iterator other =>
      simp only [owner?, Table.get?_erase, Borrower.iterator.injEq]
      split <;> rfl
    | snapshot other =>
      rw [if_neg (by simp)]
      cases view <;> rfl

theorem lease?_dropIterator (iterator : IteratorId) (b : Borrower) :
    (r.dropIterator iterator).lease? b =
      if b = .iterator iterator then none else r.lease? b := by
  unfold dropIterator
  cases hrow : r.iterators.get? iterator with
  | none =>
    show r.lease? b = _
    split
    · rename_i heq
      rw [heq, lease?, hrow]
      rfl
    · rfl
  | some row =>
    obtain ⟨owner, view, cursor⟩ := row
    cases b with
    | iterator other =>
      simp only [lease?, Table.get?_erase, Borrower.iterator.injEq]
      split <;> rfl
    | snapshot other =>
      rw [if_neg (by simp)]
      cases view <;> rfl

theorem leases_dropIterator_ok {lease : LeaseId} (hrow : r.iterators.get? iterator = some row)
    (hview : row.view = .ok lease) :
    (r.dropIterator iterator).leases = r.leases.erase lease := by
  simp only [dropIterator, hrow, hview]
  rfl

theorem leases_dropIterator_error {e : Error} (hrow : r.iterators.get? iterator = some row)
    (hview : row.view = .error e) : (r.dropIterator iterator).leases = r.leases := by
  simp only [dropIterator, hrow, hview]
  rfl

theorem leasesOf_dropIterator (iterator : IteratorId) (id : SessionId) :
    (r.dropIterator iterator).leasesOf id = r.leasesOf id := by
  unfold dropIterator
  cases hrow : r.iterators.get? iterator with
  | none => rfl
  | some row =>
    obtain ⟨owner, view, cursor⟩ := row
    cases view <;> exact leasesOf_modifySession (r := r) (by intro; rfl) id

theorem engine?_dropIterator (iterator : IteratorId) (id : SessionId) :
    (r.dropIterator iterator).engine? id = r.engine? id := by
  unfold dropIterator
  cases hrow : r.iterators.get? iterator with
  | none => rfl
  | some row =>
    obtain ⟨owner, view, cursor⟩ := row
    cases view <;> exact engine?_modifySession (r := r) (by intro; rfl) id

theorem cursor?_dropIterator (iterator other : IteratorId) :
    (r.dropIterator iterator).cursor? other =
      if other = iterator then none else r.cursor? other := by
  unfold dropIterator
  cases hrow : r.iterators.get? iterator with
  | none =>
    show r.cursor? other = _
    split
    · rename_i heq
      rw [heq, cursor?, hrow]
      rfl
    · rfl
  | some row =>
    obtain ⟨owner, view, cursor⟩ := row
    simp only [cursor?, Table.get?_erase]
    split <;> rfl

end DropIterator

/-! ## Moving -/

section SetCursor

variable (iterator : IteratorId) (cursor : Cursor)

theorem owner?_setCursor (b : Borrower) : (r.setCursor iterator cursor).owner? b = r.owner? b := by
  cases b with
  | snapshot other => rfl
  | iterator other =>
    simp only [setCursor, owner?, Table.get?_modify]
    split
    · rw [Option.map_map]
      rfl
    · rfl

theorem lease?_setCursor (b : Borrower) : (r.setCursor iterator cursor).lease? b = r.lease? b := by
  cases b with
  | snapshot other => rfl
  | iterator other =>
    simp only [setCursor, lease?, Table.get?_modify]
    split
    · cases r.iterators.get? other <;> rfl
    · rfl

theorem cursor?_setCursor (other : IteratorId) :
    (r.setCursor iterator cursor).cursor? other =
      if other = iterator then (r.cursor? other).map fun _ => cursor else r.cursor? other := by
  simp only [setCursor, cursor?, Table.get?_modify]
  split
  · rw [Option.map_map, Option.map_map]
    rfl
  · rfl

end SetCursor

end OrderedStore.Roster
