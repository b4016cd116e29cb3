import OrderedStore.Proofs.Store.Closing
import OrderedStore.Proofs.Store.Incident

/-!
# Iterators of sessions that have ended

An iterator of a session that has ended is on no entry, its status is that the session is closed,
and seeks fail with that.  But its cursor stays where it was until the first call, and what a step
does depends on that: from the entry that the iterator was on when the session ended, the first step
fails, and every other step succeeds without doing anything.

`Deserted` says this with the entry that the cursor still has, if it has one; `deserted_of_ended`
finds it from the calls since the end.  So a step need not tell that the session is closed
(`use_after_end`), and the cursor need not agree with what the iterator shows
(`observers_after_end`).
-/

set_option autoImplicit false

namespace OrderedStore.Store

open Roster

variable {s : Store} {id : SessionId} {iterator : IteratorId} {row : Iterator} {m : Move}
  {left : Option Entry}

/-! ## Calls after the end -/

/-- The entry that the cursor of an iterator of a session that has ended still has. -/
structure Orphaned (s : Store) (id : SessionId) (iterator : IteratorId) (left : Option Entry) :
    Prop where
  closed : s.isOpen id = false
  row : ∃ row, s.iterators.get? iterator = some row ∧ row.owner = id ∧
    Cursor.entry? true row.cursor = left

theorem Orphaned.owner (h : s.Orphaned id iterator left) :
    s.roster.owner? (.iterator iterator) = some id := by
  obtain ⟨row, hrow, howner, _⟩ := h.row
  exact (congrArg (Option.map Iterator.owner) hrow).trans (congrArg some howner)

/-- An incident takes the entry away if it is a call of the iterator. -/
theorem Orphaned.incur (hcoherent : s.roster.Coherent) (h : s.Orphaned id iterator left)
    {incident : Incident} (hdrop : incident ≠ .drop iterator) :
    (s.incur incident).Orphaned id iterator
      (if (incident.call? iterator s).isNone then left else none) := by
  obtain ⟨row, hrow, howner, hleft⟩ := h.row
  have hclosed : (s.incur incident).isOpen id = false := by
    have hstays := (stays_incur hcoherent h.owner hdrop).2
    rw [← Bool.not_eq_true]
    exact fun hopen => absurd (hstays hopen) (by simp [h.closed])
  refine ⟨hclosed, ?_⟩
  cases hsteer : incident.steer? iterator s with
  | some call =>
    obtain ⟨m, trouble⟩ := call
    have hreader := readerUnder_of_closed (howner ▸ h.closed) trouble
    have hmoved := get?_moveUnder hrow trouble m
    rw [hreader] at hmoved
    refine ⟨{ row with cursor := (row.cursor.move none m).1 }, ?_, howner, ?_⟩
    · rw [incur_of_steer hsteer]
      exact hmoved
    · rw [Incident.call?, hsteer, Cursor.entry?_move_none]
      rfl
  | none =>
    rw [Incident.call?, hsteer]
    cases fate_incur hcoherent hsteer hdrop with
    | rests hrests => exact ⟨row, hrests.row.trans hrow, howner, hleft⟩
    | born hnew id' view hstands =>
      rw [show s.iterators.get? iterator = none from hnew] at hrow
      cases hrow

/-- The first call takes the entry away. -/
theorem Orphaned.endure (hcoherent : s.roster.Coherent) (h : s.Orphaned id iterator left)
    {incidents : List Incident} (hdrop : .drop iterator ∉ incidents) :
    (s.endure incidents).Orphaned id iterator
      (if (calls iterator s incidents).isEmpty then left else none) := by
  induction incidents generalizing s left with
  | nil => exact h
  | cons incident rest ih =>
    obtain ⟨hfirst, hrest⟩ := List.ne_and_not_mem_of_not_mem_cons hdrop
    have horphaned := ih (coherent_incur hcoherent incident)
      (h.incur hcoherent (Ne.symm hfirst)) hrest
    rw [calls]
    cases hcall : incident.call? iterator s with
    | none =>
      rw [hcall] at horphaned
      exact horphaned
    | some call =>
      simp only [hcall, Option.isNone_some, Bool.false_eq_true, if_false, ite_self] at horphaned
      exact horphaned

/-- What an iterator of a session that has ended does, whose cursor still has an entry or none. -/
structure Deserted (s : Store) (iterator : IteratorId) (left : Option Entry) : Prop where
  entry : s.entry? iterator = none
  status : s.status iterator = .error (.closed .database)
  cursor : ∀ entry, s.cursor iterator = .valid entry ↔ left = some entry
  /-- What is refused, in spite of any trouble there may be. -/
  refused : ∀ trouble m, m.seeks = true ∨ left.isSome = true →
    (s.moveUnder trouble iterator m).2 = .error (.closed .database)
  /-- What succeeds, without doing anything. -/
  unheard : ∀ trouble m, m.seeks = false → left = none →
    s.moveUnder trouble iterator m = (s, .ok ())
  move : ∀ m, ∃ trouble, s.move iterator m = s.moveUnder trouble iterator m

theorem Orphaned.deserted (hcoherent : s.roster.Coherent) (h : s.Orphaned id iterator left) :
    s.Deserted iterator left := by
  have hbereft := bereft_of_closed hcoherent h.closed
  obtain ⟨row, hrow, howner, hleft⟩ := h.row
  refine ⟨hbereft.entry iterator h.owner, hbereft.status iterator h.owner, fun entry => ?_,
    fun trouble m hasks => ?_, fun trouble m hstep hnone => ?_,
    fun m => ⟨_, move_eq_moveUnder s iterator m⟩⟩
  · rw [Store.cursor, hrow, ← hleft]
    show row.cursor = .valid entry ↔ _
    cases row.cursor <;> simp [Cursor.entry?]
  · have hreader := readerUnder_of_closed (howner ▸ h.closed) trouble
    have hasked : (row.cursor.query? m).isSome = true := by
      rw [Cursor.isSome_query?, hleft]
      exact Bool.or_eq_true_iff.mpr hasks
    rw [(moveUnder_of_some hrow trouble m).2.2, hreader, Cursor.move_of_closed hasked]
  · have hidle : (row.cursor.query? m).isSome = false := by
      rw [Cursor.isSome_query?, hleft, hstep, hnone]
      rfl
    rw [Option.isSome_eq_false_iff, Option.isNone_iff_eq_none] at hidle
    exact moveUnder_of_idle hcoherent hrow hidle trouble

/-! ## The end of a session -/

/-- The end of a session leaves its iterators with the entries that they are on. -/
theorem orphaned_of_ended {ending : Action}
    (howner : s.roster.owner? (.iterator iterator) = some id) (hopen : s.isOpen id = true)
    (hending : ending.ends? = some id) :
    (s.perform ending).1.Orphaned id iterator (s.entry? iterator) := by
  have hroster : (s.perform ending).1.roster = s.roster.endSession id := by
    cases ending with
    | close other =>
      obtain rfl := Option.some.inj hending
      exact roster_close s other
    | discard other =>
      obtain rfl := Option.some.inj hending
      exact roster_discard s other
    | _ => cases hending
  obtain ⟨row, hrow, hid⟩ := Option.map_eq_some_iff.mp howner
  refine ⟨?_, row, ?_, hid, ?_⟩
  · show (s.perform ending).1.roster.isOpen id = false
    rw [hroster, isOpen_endSession, if_pos rfl]
  · show (s.perform ending).1.roster.iterators.get? iterator = some row
    rw [hroster, iterators_endSession, hrow]
  · unfold Store.entry?
    rw [show s.iterators.get? iterator = some row from hrow, Option.bind_some, hid, hopen]

/-- An iterator of a session that has ended still has the entry that it was on, until the first
call of it. -/
theorem deserted_of_ended (hcoherent : s.roster.Coherent) {ending : Action}
    (howner : s.roster.owner? (.iterator iterator) = some id) (hopen : s.isOpen id = true)
    (hending : ending.ends? = some id) {after : List Incident} (hdrop : .drop iterator ∉ after) :
    Deserted ((s.perform ending).1.endure after) iterator
      (if (calls iterator (s.perform ending).1 after).isEmpty then s.entry? iterator
        else none) := by
  have hended := coherent_perform hcoherent ending
  exact ((orphaned_of_ended howner hopen hending).endure hended hdrop).deserted
    (coherent_endure hended after)

/-! ## What is reported and what is shown -/

/-- After the end of its session, an iterator refuses every seek, and a step if it was on an entry
when the session ended and has not been called since.  Every other step succeeds and does nothing,
so nobody hears of the end. -/
theorem use_after_end (v : Volume) (before after : List Incident) {ending : Action}
    (howner : ((ofVolume v).endure before).roster.owner? (.iterator iterator) = some id)
    (hopen : ((ofVolume v).endure before).isOpen id = true) (hending : ending.ends? = some id)
    (hdrop : .drop iterator ∉ after) (m : Move) :
    (m.seeks = true ∨ (Option.isSome <| Store.entry? ((ofVolume v).endure before) iterator) = true ∧
        calls iterator (((ofVolume v).endure before).perform ending).1 after = [] →
      (Store.move ((((ofVolume v).endure before).perform ending).1.endure after) iterator m).2 =
        .error (.closed .database)) ∧
    (¬ (m.seeks = true ∨
        (Option.isSome <| Store.entry? ((ofVolume v).endure before) iterator) = true ∧
          calls iterator (((ofVolume v).endure before).perform ending).1 after = []) →
      Store.move ((((ofVolume v).endure before).perform ending).1.endure after) iterator m =
        ((((ofVolume v).endure before).perform ending).1.endure after, .ok ())) := by
  have hdeserted := deserted_of_ended (coherent_endure (coherent_ofVolume v) before) howner hopen
    hending hdrop
  obtain ⟨trouble, hmove⟩ := hdeserted.move m
  rw [hmove]
  constructor
  · intro hasks
    refine hdeserted.refused trouble m (hasks.imp_right ?_)
    rintro ⟨hentry, hcalls⟩
    rw [hcalls]
    exact hentry
  · intro hidle
    obtain ⟨hstep, hleft⟩ := not_or.mp hidle
    refine hdeserted.unheard trouble m (Bool.not_eq_true _ ▸ hstep) ?_
    split
    · rename_i hcalls
      rw [← Option.not_isSome_iff_eq_none]
      exact fun hentry => hleft ⟨hentry, List.isEmpty_iff.mp hcalls⟩
    · rfl

/-- The theorem on an iterator that is on an entry when its session is closed: of two steps, the
first one fails and the second one succeeds. -/
theorem use_after_end_in_memory :
    (Store.move (((ofVolume .empty).run [.openMemory {}, .put ⟨0⟩ [1] [2] true, .iterate ⟨0⟩ none,
        .move ⟨0⟩ .first, .close ⟨0⟩])) ⟨0⟩ .next).2 = .error (.closed .database) ∧
      (Store.move (((ofVolume .empty).run [.openMemory {}, .put ⟨0⟩ [1] [2] true,
        .iterate ⟨0⟩ none, .move ⟨0⟩ .first, .close ⟨0⟩, .move ⟨0⟩ .next])) ⟨0⟩ .next).2 =
        .ok () := by
  have hfirst := @use_after_end ⟨0⟩ ⟨0⟩ .empty [.happen (.act (.openMemory {})),
    .happen (.act (.put ⟨0⟩ [1] [2] true)), .happen (.act (.iterate ⟨0⟩ none)),
    .happen (.act (.move ⟨0⟩ .first))] [] (.close ⟨0⟩) rfl rfl rfl List.not_mem_nil .next
  have hsecond := @use_after_end ⟨0⟩ ⟨0⟩ .empty [.happen (.act (.openMemory {})),
    .happen (.act (.put ⟨0⟩ [1] [2] true)), .happen (.act (.iterate ⟨0⟩ none)),
    .happen (.act (.move ⟨0⟩ .first))] [.happen (.act (.move ⟨0⟩ .next))] (.close ⟨0⟩) rfl rfl rfl
    (by simp [Incident.drop]) .next
  refine ⟨hfirst.1 (Or.inr ⟨rfl, rfl⟩), congrArg Prod.snd (hsecond.2 ?_)⟩
  rintro (hseeks | ⟨_, hcalls⟩)
  · cases hseeks
  · cases hcalls

/-- Not every use of an iterator of a closed session is refused: a step of one that has never been
positioned is not. -/
theorem exists_step_unheard :
    ¬ ∀ (actions : List Action) (id : SessionId) (iterator : IteratorId) (m : Move),
      ((ofVolume .empty).run actions).roster.owner? (.iterator iterator) = some id →
      ((ofVolume .empty).run actions).isOpen id = false →
      (Store.move ((ofVolume .empty).run actions) iterator m).2 = .error (.closed .database) := by
  intro hall
  have hrefused := hall [.openMemory {}, .iterate ⟨0⟩ none, .close ⟨0⟩] ⟨0⟩ ⟨0⟩ .next rfl rfl
  have hok : (Store.move ((ofVolume .empty).run
      [.openMemory {}, .iterate ⟨0⟩ none, .close ⟨0⟩]) ⟨0⟩ .next).2 = .ok () := rfl
  rw [hok] at hrefused
  cases hrefused

/-- What an iterator shows is what its cursor is on as long as its session is open, and nothing
after that; a degraded cursor always comes with a failed status.  The cursor stays on the entry that
it is on when the session ends, until the first call. -/
theorem observers_after_end (v : Volume) (before : List Incident)
    (howner : ((ofVolume v).endure before).roster.owner? (.iterator iterator) = some id) :
    (((ofVolume v).endure before).isOpen id = true → ∀ entry,
      Store.entry? ((ofVolume v).endure before) iterator = some entry ↔
        ((ofVolume v).endure before).cursor iterator = .valid entry) ∧
    (((ofVolume v).endure before).isOpen id = false →
      Store.entry? ((ofVolume v).endure before) iterator = none) ∧
    (∀ e, ((ofVolume v).endure before).cursor iterator = .degraded e →
      ((ofVolume v).endure before).status iterator =
        .error (if ((ofVolume v).endure before).isOpen id then e else .closed .database)) ∧
    (((ofVolume v).endure before).isOpen id = true → ∀ ending after, ending.ends? = some id →
      .drop iterator ∉ after → ∀ entry,
      Store.cursor ((((ofVolume v).endure before).perform ending).1.endure after) iterator =
          .valid entry ↔
        calls iterator (((ofVolume v).endure before).perform ending).1 after = [] ∧
          Store.entry? ((ofVolume v).endure before) iterator = some entry) := by
  have hcoherent := coherent_endure (coherent_ofVolume v) before
  obtain ⟨row, hrow, hid⟩ := Option.map_eq_some_iff.mp howner
  have hentry : Store.entry? ((ofVolume v).endure before) iterator =
      row.cursor.entry? (((ofVolume v).endure before).isOpen id) := by
    unfold Store.entry?
    rw [show ((ofVolume v).endure before).iterators.get? iterator = some row from hrow,
      Option.bind_some, hid]
  have hcursor : ((ofVolume v).endure before).cursor iterator = row.cursor := by
    rw [Store.cursor, show ((ofVolume v).endure before).iterators.get? iterator = some row
      from hrow]
  refine ⟨fun hopen entry => ?_, fun hclosed => ?_, fun e hdegraded => ?_,
    fun hopen ending after hending hdrop entry => ?_⟩
  · rw [hentry, hcursor, hopen]
    cases row.cursor <;> simp [Cursor.entry?]
  · rw [hentry, hclosed, Cursor.entry?_of_closed]
  · rw [Store.status, show ((ofVolume v).endure before).iterators.get? iterator = some row
      from hrow]
    simp only [hid, hcursor.symm.trans hdegraded, Cursor.status]
    cases ((ofVolume v).endure before).isOpen id <;> rfl
  · rw [(deserted_of_ended hcoherent howner hopen hending hdrop).cursor]
    cases calls iterator (((ofVolume v).endure before).perform ending).1 after <;> simp

/-- The theorem on an iterator that is on an entry, before and after its session is closed. -/
theorem observers_after_end_in_memory :
    ((ofVolume .empty).run [.openMemory {}, .put ⟨0⟩ [1] [2] true, .iterate ⟨0⟩ none,
        .move ⟨0⟩ .first]).roster.owner? (.iterator ⟨0⟩) = some ⟨0⟩ ∧
      Store.entry? ((ofVolume .empty).run [.openMemory {}, .put ⟨0⟩ [1] [2] true,
        .iterate ⟨0⟩ none, .move ⟨0⟩ .first]) ⟨0⟩ = some ([1], [2]) ∧
      Store.cursor ((ofVolume .empty).run [.openMemory {}, .put ⟨0⟩ [1] [2] true,
        .iterate ⟨0⟩ none, .move ⟨0⟩ .first, .close ⟨0⟩]) ⟨0⟩ = .valid ([1], [2]) := by
  obtain ⟨hshown, _, _, hleft⟩ := @observers_after_end ⟨0⟩ ⟨0⟩ .empty
    [.happen (.act (.openMemory {})), .happen (.act (.put ⟨0⟩ [1] [2] true)),
      .happen (.act (.iterate ⟨0⟩ none)), .happen (.act (.move ⟨0⟩ .first))] rfl
  have hentry := (hshown rfl ([1], [2])).mpr rfl
  exact ⟨rfl, hentry, (hleft rfl (.close ⟨0⟩) [] rfl List.not_mem_nil _).mpr ⟨rfl, hentry⟩⟩

/-- A cursor may be on an entry that the iterator does not show. -/
theorem exists_entry_unshown :
    ¬ ∀ (actions : List Action) (id : SessionId) (iterator : IteratorId),
      ((ofVolume .empty).run actions).roster.owner? (.iterator iterator) = some id →
      ((Option.isSome <| Store.entry? ((ofVolume .empty).run actions) iterator) = true ↔
        ∃ entry, Store.cursor ((ofVolume .empty).run actions) iterator = .valid entry) := by
  intro hall
  have hagree := hall [.openMemory {}, .put ⟨0⟩ [1] [2] true, .iterate ⟨0⟩ none,
    .move ⟨0⟩ .first, .close ⟨0⟩] ⟨0⟩ ⟨0⟩ rfl
  have hshown := hagree.mpr ⟨([1], [2]), rfl⟩
  have hnone : Store.entry? ((ofVolume .empty).run [.openMemory {}, .put ⟨0⟩ [1] [2] true,
    .iterate ⟨0⟩ none, .move ⟨0⟩ .first, .close ⟨0⟩]) ⟨0⟩ = none := rfl
  rw [hnone] at hshown
  cases hshown

end OrderedStore.Store
