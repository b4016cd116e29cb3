import OrderedStore.Proofs.Standing
import OrderedStore.Proofs.Store.Census
import OrderedStore.Proofs.Store.Tenant

/-!
# Where the iterators of a roster stand

`Roster.Stands` says how an iterator of an open session stands: what came of opening its view, and
where its cursor is among the entries or which error it keeps.  It is an invariant of iterators in
whatever way they came about, over a view or over the failure to open one.

An action that neither moves an iterator nor lets it go has one of two effects on it, the `Fate`
of the iterator: it is as it was, or it is new.  `fate_perform` goes through the actions once for
all that is said about iterators over whole runs.
-/

set_option autoImplicit false

namespace OrderedStore

/-- How a new iterator stands. -/
def Outlook.start : Outlook → Standing
  | .ok _ => .sound .unpositioned
  | .error e => .degraded e

namespace Roster

variable {r r' r'' : Roster} {id : SessionId} {iterator : IteratorId} {view : Outlook}
  {standing : Standing}

/-! ## Standing -/

/-- What came of opening the view that an iterator reads. -/
def outlook (r : Roster) (row : Iterator) : Outlook :=
  row.view.bind fun lease => ((r.leases.get? lease).getD .revoked).read

/-- An iterator of an open session stands among the entries of its view, or keeps an error.
Without a view it does nothing but keep the error that it came about with. -/
structure Stands (r : Roster) (id : SessionId) (iterator : IteratorId) (view : Outlook)
    (standing : Standing) : Prop where
  row : ∃ row, r.iterators.get? iterator = some row ∧ row.owner = id ∧ r.outlook row = view ∧
    row.cursor = standing.cursor view.seen
  isOpen : r.isOpen id = true
  fits : standing.Fits view.seen.entries
  stuck : ∀ e, view = .error e → standing = .degraded e

/-- The outlook, from the view that the lease of the iterator is for. -/
theorem outlook_eq {row : Iterator} (hrow : r.iterators.get? iterator = some row) :
    r.outlook row = match row.view with
      | .error e => .error e
      | .ok _ => (r.viewOf (.iterator iterator)).elim (.error (.closed .database)) .ok := by
  have hview : r.viewOf (.iterator iterator) = row.view.toOption.bind r.view? := by
    rw [viewOf, lease?, hrow, Option.bind_some]
  cases hlease : row.view with
  | error e => rw [outlook, hlease, Except.bind]
  | ok lease =>
    have hread : r.outlook row = ((r.leases.get? lease).getD .revoked).read := by
      rw [outlook, hlease, Except.bind]
    rw [hread, hview, hlease]
    show _ = (r.view? lease).elim _ _
    unfold view?
    cases r.leases.get? lease with
    | none => rfl
    | some held =>
      obtain ⟨view⟩ := held
      cases view <;> rfl

theorem outlook_congr {row : Iterator} (hrow : r.iterators.get? iterator = some row)
    (hrow' : r'.iterators.get? iterator = some row)
    (hview : r'.viewOf (.iterator iterator) = r.viewOf (.iterator iterator)) :
    r'.outlook row = r.outlook row := by
  rw [outlook_eq hrow, outlook_eq hrow', hview]

/-- A new iterator stands at its start. -/
theorem Coherent.stands_addIterator (h : r.Coherent) (hopen : r.isOpen id = true)
    (view : Outlook) : (r.addIterator id view).Stands id r.iterators.fresh view view.start := by
  have hviewOf : (r.addIterator id view).viewOf (.iterator r.iterators.fresh) = view.toOption := by
    rw [h.viewOf_addIterator, if_pos rfl]
  refine ⟨?_, ?_, ?_, ?_⟩
  · cases view with
    | ok m =>
      have hrow : (r.addIterator id (.ok m)).iterators.get? r.iterators.fresh =
          some ⟨id, .ok r.leases.fresh, .unpositioned⟩ := Table.get?_insert_fresh _ _
      refine ⟨_, hrow, rfl, ?_, rfl⟩
      rw [outlook_eq hrow, hviewOf]
      rfl
    | error e =>
      have hrow : (r.addIterator id (.error e)).iterators.get? r.iterators.fresh =
          some ⟨id, .error e, .degraded e⟩ := Table.get?_insert_fresh _ _
      exact ⟨_, hrow, rfl, outlook_eq hrow, rfl⟩
  · rw [isOpen_eq_isSome_engine?, engine?_addIterator, ← isOpen_eq_isSome_engine?]
    exact hopen
  · cases view with
    | ok m => exact Position.fits_unpositioned _
    | error e => exact Standing.fits_degraded _ e
  · rintro e rfl
    rfl

/-! ## Resting -/

theorem get?_iterators_dropIterator (r : Roster) (other iterator : IteratorId) :
    (r.dropIterator other).iterators.get? iterator =
      if iterator = other then none else r.iterators.get? iterator := by
  unfold dropIterator
  cases hrow : r.iterators.get? other with
  | none =>
    show r.iterators.get? iterator = _
    split
    · rename_i heq
      rw [heq, hrow]
    · rfl
  | some row => exact Table.get?_erase _ _ _

/-- An iterator is as it was, but for the end of its session. -/
structure Rests (r r' : Roster) (iterator : IteratorId) : Prop where
  row : r'.iterators.get? iterator = r.iterators.get? iterator
  session : ∀ {id : SessionId}, r.owner? (.iterator iterator) = some id → r'.isOpen id = true →
    r.isOpen id = true ∧ r'.viewOf (.iterator iterator) = r.viewOf (.iterator iterator)

namespace Rests

theorem owner? (h : r.Rests r' iterator) :
    r'.owner? (.iterator iterator) = r.owner? (.iterator iterator) :=
  congrArg (Option.map Iterator.owner) h.row

theorem of_same (hrow : r'.iterators.get? iterator = r.iterators.get? iterator)
    (hopen : ∀ id, r'.isOpen id = r.isOpen id)
    (hview : r'.viewOf (.iterator iterator) = r.viewOf (.iterator iterator)) :
    r.Rests r' iterator :=
  ⟨hrow, fun _ hid => ⟨(hopen _).symm.trans hid, hview⟩⟩

theorem refl (r : Roster) (iterator : IteratorId) : r.Rests r iterator :=
  .of_same rfl (fun _ => rfl) rfl

theorem of_eq (h : r' = r) (iterator : IteratorId) : r.Rests r' iterator := h ▸ .refl r iterator

theorem trans (h : r.Rests r' iterator) (h' : r'.Rests r'' iterator) : r.Rests r'' iterator where
  row := h'.row.trans h.row
  session howner hopen := by
    obtain ⟨hmiddle, hview'⟩ := h'.session (h.owner?.trans howner) hopen
    obtain ⟨hbefore, hview⟩ := h.session howner hmiddle
    exact ⟨hbefore, hview'.trans hview⟩

theorem modifyEngine (r : Roster) (id : SessionId) (f : Engine → Engine)
    (iterator : IteratorId) : r.Rests (r.modifyEngine id f) iterator :=
  .of_same rfl (fun _ => isOpen_modifySession _) (Coherent.viewOf_modifyEngine id f _)

theorem skipSession (r : Roster) (iterator : IteratorId) : r.Rests r.skipSession iterator :=
  .of_same rfl (fun _ => rfl) rfl

theorem openSession (h : r.Coherent) (session : Session) (iterator : IteratorId) :
    r.Rests (r.openSession session) iterator where
  row := rfl
  session {id} howner hopen := by
    refine ⟨?_, Coherent.viewOf_openSession session _⟩
    rw [isOpen_openSession] at hopen
    split at hopen
    · rename_i hfresh
      exact absurd (hfresh ▸ howner) (h.not_owner_fresh _)
    · exact hopen

theorem endSession (h : r.Coherent) (id : SessionId) (iterator : IteratorId) :
    r.Rests (r.endSession id) iterator where
  row := by rw [iterators_endSession]
  session {owner} howner hopen := by
    rw [isOpen_endSession] at hopen
    split at hopen
    · cases hopen
    · rename_i hne
      refine ⟨hopen, ?_⟩
      cases hended : r.sessions.get? id with
      | none => simp only [Roster.endSession, hended]
      | some session =>
        have hnot : r.owner? (.iterator iterator) ≠ some id := by
          rw [howner]
          exact fun heq => hne (Option.some.inj heq)
        rw [h.viewOf_endSession (isOpen_eq_true_iff.mpr ⟨session, hended⟩), if_neg hnot]

theorem addSnapshot (h : r.Coherent) (id : SessionId) (view : Keyspace)
    (iterator : IteratorId) : r.Rests (r.addSnapshot id view) iterator := by
  refine .of_same rfl (fun _ => ?_) ?_
  · rw [isOpen_eq_isSome_engine?, engine?_addSnapshot, isOpen_eq_isSome_engine?]
  · rw [h.viewOf_addSnapshot, if_neg (by simp)]

theorem addIterator (h : r.Coherent) (id : SessionId) (view : Outlook)
    (hne : iterator ≠ r.iterators.fresh) : r.Rests (r.addIterator id view) iterator := by
  refine .of_same ?_ (fun _ => ?_) ?_
  · cases view <;> exact Table.get?_insert_of_ne _ _ hne
  · rw [isOpen_eq_isSome_engine?, engine?_addIterator, isOpen_eq_isSome_engine?]
  · rw [h.viewOf_addIterator, if_neg (by simpa using hne)]

theorem dropSnapshot (h : r.Coherent) (snapshot : SnapshotId) (iterator : IteratorId) :
    r.Rests (r.dropSnapshot snapshot) iterator := by
  refine .of_same ?_ (fun _ => ?_) ?_
  · rw [iterators_dropSnapshot]
  · rw [isOpen_eq_isSome_engine?, engine?_dropSnapshot, isOpen_eq_isSome_engine?]
  · rw [h.viewOf_dropSnapshot, if_neg (by simp)]

theorem dropIterator (h : r.Coherent) {other : IteratorId} (hne : iterator ≠ other) :
    r.Rests (r.dropIterator other) iterator := by
  refine .of_same ?_ (fun _ => ?_) ?_
  · rw [get?_iterators_dropIterator, if_neg hne]
  · rw [isOpen_eq_isSome_engine?, engine?_dropIterator, isOpen_eq_isSome_engine?]
  · rw [h.viewOf_dropIterator, if_neg (by simpa using hne)]

theorem setCursor (r : Roster) {other : IteratorId} (hne : iterator ≠ other) (cursor : Cursor) :
    r.Rests (r.setCursor other cursor) iterator := by
  refine .of_same ?_ (fun _ => rfl) (Coherent.viewOf_setCursor other cursor _)
  rw [Roster.setCursor, Table.get?_modify, if_neg hne]

end Rests

/-- An iterator that rests stands as before. -/
theorem Stands.rests (h : r.Stands id iterator view standing) (hrests : r.Rests r' iterator)
    (hopen : r'.isOpen id = true) : r'.Stands id iterator view standing := by
  obtain ⟨row, hrow, howner, houtlook, hcursor⟩ := h.row
  have hid : r.owner? (.iterator iterator) = some id := by
    rw [Roster.owner?, hrow, Option.map_some, howner]
  have hrow' := hrests.row.trans hrow
  refine ⟨⟨row, hrow', howner, ?_, hcursor⟩, hopen, h.fits, h.stuck⟩
  rw [outlook_congr hrow hrow' (hrests.session hid hopen).2, houtlook]

/-! ## What becomes of an iterator that nobody touches -/

/-- An iterator is as it was, or it is new. -/
inductive Fate (r r' : Roster) (iterator : IteratorId) : Prop
  | rests (rests : r.Rests r' iterator)
  | born (new : r.iterators.get? iterator = none) (id : SessionId) (view : Outlook)
    (stands : r'.Stands id iterator view view.start)

theorem Rests.fate (h : r.Rests r' iterator) (h' : r'.Fate r'' iterator) :
    r.Fate r'' iterator := by
  cases h' with
  | rests hrests => exact .rests (h.trans hrests)
  | born hnew id view hstands => exact .born (h.row.symm.trans hnew) id view hstands

theorem Coherent.fate_addIterator (h : r.Coherent) (hopen : r.isOpen id = true) (view : Outlook)
    (iterator : IteratorId) : r.Fate (r.addIterator id view) iterator := by
  by_cases hfresh : iterator = r.iterators.fresh
  · rw [hfresh]
    exact .born h.iterators.get?_fresh id view (h.stands_addIterator hopen view)
  · exact .rests (.addIterator h id view hfresh)

end Roster

namespace Store

variable {s : Store} {iterator : IteratorId}

open Roster

theorem rests_latest (s : Store) (id : SessionId) (iterator : IteratorId) :
    s.roster.Rests (s.latest id).1.roster iterator := by
  rw [roster_latest]
  exact .modifyEngine s.roster id _ iterator

theorem rests_viewAt (s : Store) (id : SessionId) (snapshot : Option SnapshotId)
    (iterator : IteratorId) : s.roster.Rests (s.viewAt id snapshot).1.roster iterator := by
  cases snapshot with
  | none => exact rests_latest s id iterator
  | some snapshot => exact .refl s.roster iterator

theorem rests_commit (s : Store) (id : SessionId) (write : Write) (iterator : IteratorId) :
    s.roster.Rests (s.commit id write).1.roster iterator := by
  cases hsession : s.sessions.get? id with
  | none =>
    rw [commit_of_closed hsession]
    exact .refl s.roster iterator
  | some session =>
    rw [(commit_of_open hsession write).1]
    exact .modifyEngine s.roster id _ iterator

theorem rests_snapshot (h : s.roster.Coherent) (id : SessionId) (iterator : IteratorId) :
    s.roster.Rests (s.snapshot id).1.roster iterator := by
  have hlatest := rests_latest s id iterator
  cases hview : (s.latest id).2 with
  | error e =>
    rw [snapshot_of_error hview]
    exact hlatest
  | ok view =>
    rw [(snapshot_of_ok hview).1]
    exact hlatest.trans (.addSnapshot (coherent_latest h id) id view iterator)

theorem fate_iterate (h : s.roster.Coherent) (id : SessionId) (snapshot : Option SnapshotId)
    (iterator : IteratorId) : s.roster.Fate (s.iterate id snapshot).1.roster iterator := by
  cases hread : s.checkRead id snapshot with
  | error e =>
    rw [iterate_of_error hread]
    exact .rests (.refl s.roster iterator)
  | ok _ =>
    rw [(iterate_of_ok hread).1]
    refine (rests_viewAt s id snapshot iterator).fate ?_
    refine (coherent_viewAt h id snapshot).fate_addIterator ?_ _ iterator
    rw [isOpen_viewAt]
    exact isOpen_of_checkRead hread

/-- What a move does to a roster leaves the other iterators as they were. -/
theorem rests_reaching (s : Store) {other : IteratorId} (hne : iterator ≠ other) (row : Iterator)
    (m : Move) (cursor : Cursor) :
    s.roster.Rests ((if s.reaches row m then
        s.roster.modifyEngine row.owner (Engine.accessed s.volume)
        else s.roster).setCursor other cursor) iterator := by
  refine Rests.trans ?_ (.setCursor _ hne _)
  split
  · exact .modifyEngine s.roster row.owner _ iterator
  · exact .refl s.roster iterator

/-- Moving one iterator leaves the others as they were. -/
theorem rests_move (s : Store) {other : IteratorId} (hne : iterator ≠ other) (m : Move) :
    s.roster.Rests (s.move other m).1.roster iterator := by
  cases hrow : s.iterators.get? other with
  | none =>
    rw [move_of_none hrow]
    exact .refl s.roster iterator
  | some row =>
    rw [(move_of_some hrow m).1]
    exact rests_reaching s hne row m _

/-- What an action that neither moves an iterator nor lets it go makes of it. -/
theorem fate_perform (h : s.roster.Coherent) {action : Action}
    (hmove : ∀ m, action ≠ .move iterator m) (hdrop : action ≠ .dropIterator iterator) :
    s.roster.Fate (s.perform action).1.roster iterator := by
  cases action with
  | openAt path options =>
    rcases openAt_spec s path options with ⟨s', engine, heq, hopened⟩ | ⟨s', e, heq, hfailed⟩
    · obtain ⟨logger, options', hroster⟩ := hopened.roster
      simp only [perform, heq, hroster]
      exact .rests (.openSession h _ iterator)
    · simp only [perform, heq, hfailed.roster]
      exact .rests (.skipSession s.roster iterator)
  | openMemory options =>
    rcases openInMemory_spec s options with ⟨s', heq, _, hopened⟩ | ⟨s', e, heq, _, hfailed⟩
    · obtain ⟨logger, options', hroster⟩ := hopened.roster
      simp only [perform, heq, hroster]
      exact .rests (.openSession h _ iterator)
    · simp only [perform, heq, hfailed.roster]
      exact .rests (.skipSession s.roster iterator)
  | close id =>
    simp only [perform, roster_close]
    exact .rests (.endSession h id iterator)
  | discard id =>
    simp only [perform, roster_discard]
    exact .rests (.endSession h id iterator)
  | put id key value sync => exact .rests (rests_commit s id _ iterator)
  | putOption id key value sync => exact .rests (rests_commit s id _ iterator)
  | delete id key sync => exact .rests (rests_commit s id _ iterator)
  | write id batch sync => exact .rests (rests_commit s id _ iterator)
  | get id snapshot key =>
    cases hread : s.checkRead id snapshot with
    | error e =>
      simp only [perform, get_of_error hread]
      exact .rests (.refl s.roster iterator)
    | ok _ =>
      simp only [perform, get_of_ok hread]
      exact .rests (rests_viewAt s id snapshot iterator)
  | property id name =>
    rcases (property_spec s id name).1 with hsame | hlatest
    · exact .rests (.of_eq hsame iterator)
    · simp only [perform, hlatest]
      exact .rests (rests_latest s id iterator)
  | snapshot id => exact .rests (rests_snapshot h id iterator)
  | releaseSnapshot id snapshot =>
    simp only [perform, releaseSnapshot, (dropSnapshot_spec s snapshot).1]
    exact .rests (.dropSnapshot h snapshot iterator)
  | dropSnapshot snapshot =>
    simp only [perform, (dropSnapshot_spec s snapshot).1]
    exact .rests (.dropSnapshot h snapshot iterator)
  | iterate id snapshot => exact fate_iterate h id snapshot iterator
  | move other m =>
    refine .rests (rests_move s ?_ m)
    rintro rfl
    exact hmove m rfl
  | dropIterator other =>
    simp only [perform, (dropIterator_spec s other).1]
    refine .rests (.dropIterator h ?_)
    rintro rfl
    exact hdrop rfl
  | destroy path => exact .rests (.of_eq (destroy_spec s path).1 iterator)
  | repair path =>
    simp only [perform, (repair_spec s path).1]
    exact .rests (.skipSession s.roster iterator)
  | listen filter => exact .rests (.refl s.roster iterator)
  | sway verdicts => exact .rests (.refl s.roster iterator)
  | report event => exact .rests (.refl s.roster iterator)

end Store

end OrderedStore
