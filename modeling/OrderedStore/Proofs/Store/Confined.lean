import OrderedStore.Proofs.Store.Run

/-!
# What is confined to one session

Letting children of a session go and closing the session leave everything else as it is:
the other sessions, their snapshots and iterators, and the views that these read.  It is
stated by looking things up in the roster (`Roster.Confined`), so that it covers the state
of what is found and not only that it is there.
-/

set_option autoImplicit false

namespace OrderedStore

namespace Roster

variable {r r' r'' : Roster} {id : SessionId}

/-- Nothing has become of other sessions and of what belongs to them. -/
structure Confined (r r' : Roster) (id : SessionId) : Prop where
  session : ∀ {other : SessionId}, other ≠ id → r'.sessions.get? other = r.sessions.get? other
  snapshot : ∀ {x : SnapshotId}, r.owner? (.snapshot x) ≠ some id →
    r'.snapshots.get? x = r.snapshots.get? x
  iterator : ∀ {x : IteratorId}, r.owner? (.iterator x) ≠ some id →
    r'.iterators.get? x = r.iterators.get? x
  view : ∀ {b : Borrower}, r.owner? b ≠ some id → r'.viewOf b = r.viewOf b
  /-- Nothing has come to belong to anybody. -/
  owner : ∀ {b : Borrower} {other : SessionId}, r'.owner? b = some other → r.owner? b = some other

namespace Confined

theorem refl (r : Roster) (id : SessionId) : r.Confined r id :=
  ⟨fun _ => rfl, fun _ => rfl, fun _ => rfl, fun _ => rfl, fun h => h⟩

theorem trans (h : r.Confined r' id) (h' : r'.Confined r'' id) : r.Confined r'' id where
  session hother := (h'.session hother).trans (h.session hother)
  snapshot hx := (h'.snapshot fun hid => hx (h.owner hid)).trans (h.snapshot hx)
  iterator hx := (h'.iterator fun hid => hx (h.owner hid)).trans (h.iterator hx)
  view hb := (h'.view fun hid => hb (h.owner hid)).trans (h.view hb)
  owner hid := h.owner (h'.owner hid)

end Confined

theorem confined_dropSnapshot (h : r.Coherent) {x : SnapshotId}
    (howner : ∀ other, r.owner? (.snapshot x) = some other → other = id) :
    r.Confined (r.dropSnapshot x) id := by
  cases hrow : r.snapshots.get? x with
  | none =>
    have hsame : r.dropSnapshot x = r := by simp only [Roster.dropSnapshot, hrow]
    rw [hsame]
    exact .refl r id
  | some row =>
    have hid : r.owner? (.snapshot x) = some id := by
      have hsome : r.owner? (.snapshot x) = some row.owner := by rw [owner?, hrow]; rfl
      rw [hsome, howner _ hsome]
    have hne : ∀ {b : Borrower}, r.owner? b ≠ some id → b ≠ .snapshot x := by
      rintro b hb rfl
      exact hb hid
    have hdrop : r.dropSnapshot x =
        { (r.giveUp row.lease).modifySession row.owner fun session =>
            { session with liveSnapshots := session.liveSnapshots - 1 } with
          snapshots := r.snapshots.erase x } := by simp only [Roster.dropSnapshot, hrow]
    have hrowOwner : row.owner = id := howner _ (by rw [owner?, hrow]; rfl)
    refine ⟨fun {other} hother => ?_, fun {y} hy => ?_, fun _ => ?_, fun {b} hb => ?_,
      fun {b other} hb => ?_⟩
    · rw [hdrop, hrowOwner]
      exact (Table.get?_modify ..).trans (if_neg hother)
    · rw [hdrop]
      exact (Table.get?_erase ..).trans (if_neg fun heq => hne hy (congrArg _ heq))
    · rw [iterators_dropSnapshot]
    · rw [h.viewOf_dropSnapshot, if_neg (hne hb)]
    · rw [owner?_dropSnapshot] at hb
      split at hb
      · simp at hb
      · exact hb

theorem confined_dropIterator (h : r.Coherent) {x : IteratorId}
    (howner : ∀ other, r.owner? (.iterator x) = some other → other = id) :
    r.Confined (r.dropIterator x) id := by
  cases hrow : r.iterators.get? x with
  | none =>
    have hsame : r.dropIterator x = r := by simp only [Roster.dropIterator, hrow]
    rw [hsame]
    exact .refl r id
  | some row =>
    obtain ⟨owner, view, cursor⟩ := row
    have hid : r.owner? (.iterator x) = some owner := by rw [owner?, hrow]; rfl
    obtain rfl := howner _ hid
    have hne : ∀ {b : Borrower}, r.owner? b ≠ some owner → b ≠ .iterator x := by
      rintro b hb rfl
      exact hb hid
    have hsessions : (r.dropIterator x).sessions = r.sessions.modify owner fun session =>
        { session with liveIterators := session.liveIterators - 1 } := by
      simp only [Roster.dropIterator, hrow]
      cases view <;> rfl
    have hsnapshots : (r.dropIterator x).snapshots = r.snapshots := by
      simp only [Roster.dropIterator, hrow]
      cases view <;> rfl
    have hiterators : (r.dropIterator x).iterators = r.iterators.erase x := by
      simp only [Roster.dropIterator, hrow]
    refine ⟨fun {other} hother => ?_, fun _ => ?_, fun {y} hy => ?_, fun {b} hb => ?_,
      fun {b other} hb => ?_⟩
    · rw [hsessions]
      exact (Table.get?_modify ..).trans (if_neg hother)
    · rw [hsnapshots]
    · rw [hiterators]
      exact (Table.get?_erase ..).trans (if_neg fun heq => hne hy (congrArg _ heq))
    · rw [h.viewOf_dropIterator, if_neg (hne hb)]
    · rw [owner?_dropIterator] at hb
      split at hb
      · simp at hb
      · exact hb

theorem confined_endSession (h : r.Coherent) (hopen : r.isOpen id = true) :
    r.Confined (r.endSession id) id where
  session hother := by rw [get?_sessions_endSession, if_neg hother]
  snapshot _ := by
    unfold endSession
    split <;> rfl
  iterator _ := by rw [iterators_endSession]
  view hb := by rw [h.viewOf_endSession hopen, if_neg hb]
  owner hb := by
    rw [owner?_endSession] at hb
    exact hb

end Roster

namespace Store

variable {s s' s'' : Store} {id : SessionId}

/-- Children of one session have been let go. -/
structure Frees (s s' : Store) (id : SessionId) : Prop where
  confined : s.roster.Confined s'.roster id
  engine : ∀ other, s'.roster.engine? other = s.roster.engine? other
  volume : s'.volume = s.volume

theorem Frees.refl (s : Store) (id : SessionId) : s.Frees s id := ⟨.refl _ id, fun _ => rfl, rfl⟩

theorem Frees.trans (h : s.Frees s' id) (h' : s'.Frees s'' id) : s.Frees s'' id :=
  ⟨h.confined.trans h'.confined, fun other => (h'.engine other).trans (h.engine other),
    h'.volume.trans h.volume⟩

theorem frees_dropIterator (h : s.roster.Coherent) {x : IteratorId}
    (howner : ∀ other, s.roster.owner? (.iterator x) = some other → other = id) :
    s.Frees (s.dropIterator x) id := by
  obtain ⟨hroster, hvolume⟩ := dropIterator_spec s x
  refine ⟨?_, fun other => ?_, hvolume⟩ <;> rw [hroster]
  · exact Roster.confined_dropIterator h howner
  · exact Roster.engine?_dropIterator x other

theorem frees_dropSnapshot (h : s.roster.Coherent) {x : SnapshotId}
    (howner : ∀ other, s.roster.owner? (.snapshot x) = some other → other = id) :
    s.Frees (s.dropSnapshot x) id := by
  obtain ⟨hroster, hvolume⟩ := dropSnapshot_spec s x
  refine ⟨?_, fun other => ?_, hvolume⟩ <;> rw [hroster]
  · exact Roster.confined_dropSnapshot h howner
  · exact Roster.engine?_dropSnapshot x other

/-- A list of children of one session is let go one after the other. -/
theorem frees_run {α : Type} (child : α → Borrower) (drop : α → Action)
    (hdrop : ∀ {s : Store} {thing : α}, s.roster.Coherent →
      (∀ other, s.roster.owner? (child thing) = some other → other = id) →
      s.Frees (s.perform (drop thing)).1 id)
    (h : s.roster.Coherent) {things : List α}
    (howner : ∀ thing ∈ things, ∀ other, s.roster.owner? (child thing) = some other → other = id) :
    s.Frees (s.run (things.map drop)) id := by
  induction things generalizing s with
  | nil => exact .refl s id
  | cons thing rest ih =>
    have hfirst := hdrop h (howner thing List.mem_cons_self)
    -- What is left still belongs to the session, or to nobody.
    have hrest : ∀ thing' ∈ rest, ∀ other,
        (s.perform (drop thing)).1.roster.owner? (child thing') = some other → other = id :=
      fun thing' hmem other hother =>
        howner thing' (List.mem_cons_of_mem _ hmem) other (hfirst.confined.owner hother)
    exact hfirst.trans (ih (coherent_perform h (drop thing)) hrest)

theorem confined_close (h : s.roster.Coherent) (hopen : s.roster.isOpen id = true) :
    s.roster.Confined (s.close id).roster id := by
  rw [roster_close]
  exact Roster.confined_endSession h hopen

/-- A session is closed whose children have been let go before. -/
theorem Frees.volume_close (h : s.Frees s' id) {session : Session}
    (hsession : s.sessions.get? id = some session) :
    (s'.close id).volume = session.engine.release s.volume := by
  have hengine : s'.roster.engine? id = some session.engine := by
    rw [h.engine id]
    show (s.sessions.get? id).map _ = _
    rw [hsession]
    rfl
  obtain ⟨session', hsession', heq⟩ := Option.map_eq_some_iff.mp hengine
  rw [Store.volume_close, show s'.sessions.get? id = some session' from hsession']
  show session'.engine.release s'.volume = _
  rw [heq, h.volume]

end Store

end OrderedStore
