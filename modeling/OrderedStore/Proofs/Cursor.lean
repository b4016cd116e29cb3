import OrderedStore.Cursor
import OrderedStore.Proofs.Keyspace

/-!
# Positions in a view

A cursor keeps the entry it is on and asks its view anew for the nearest key at every step.
A `Position` keeps the number of the entry instead, and its moves count: they do not look
at keys, except for a seek, which counts the keys before the one that is sought.

`move_cursor` says that the two go together.  It rests on the strict order of the entries:
after the key of the entry at `i` the nearest one is the entry at `i + 1`
(`after_getElem`), and before it the entry at `i - 1` (`before_getElem`).
-/

set_option autoImplicit false

namespace OrderedStore

/-- A place in a list of entries. -/
inductive Position where
  /-- Not positioned yet. -/
  | unpositioned
  /-- On the entry of that number, counted from zero. -/
  | on (index : Nat)
  /-- Ran off either end. -/
  | off
  deriving DecidableEq, Repr

/-! ## The nearest entries -/

namespace Keyspace

variable {m : Keyspace} {i j : Nat}

theorem getElem_lt_getElem (hi : i < m.entries.length) (hj : j < m.entries.length)
    (hij : i < j) : m.entries[i].1 < m.entries[j].1 :=
  List.pairwise_iff_getElem.mp m.ascending i j hi hj hij

/-- The keys before the key of an entry are those of the entries before it. -/
theorem getElem_lt_getElem_iff (hi : i < m.entries.length) (hj : j < m.entries.length) :
    m.entries[i].1 < m.entries[j].1 ↔ i < j := by
  constructor
  · intro hlt
    rcases Nat.lt_trichotomy i j with hij | rfl | hji
    · exact hij
    · exact absurd hlt (Bytes.lt_irrefl _)
    · exact absurd hlt (Bytes.lt_asymm (getElem_lt_getElem hj hi hji))
  · exact getElem_lt_getElem hi hj

theorem after_getElem (hi : i < m.entries.length) :
    m.after m.entries[i].1 = m.entries[i + 1]? := by
  unfold after
  by_cases hnext : i + 1 < m.entries.length
  · rw [List.getElem?_eq_getElem hnext, List.find?_eq_some_iff_getElem]
    refine ⟨decide_eq_true (getElem_lt_getElem hi hnext (Nat.lt_succ_self i)), i + 1, hnext, rfl,
      fun j hj => ?_⟩
    have hnot : ¬ m.entries[i].1 < m.entries[j].1 := by
      rw [getElem_lt_getElem_iff]
      omega
    simpa using hnot
  · rw [List.getElem?_eq_none (Nat.le_of_not_lt hnext), List.find?_eq_none]
    intro e hmem
    obtain ⟨j, hj, rfl⟩ := List.getElem_of_mem hmem
    rw [decide_eq_true_eq, getElem_lt_getElem_iff]
    omega

/-- The entries before the key of an entry. -/
theorem takeWhile_getElem (hi : i < m.entries.length) :
    (m.entries.takeWhile fun e => e.1 < m.entries[i].1) = m.entries.take i := by
  have hfound : m.entries.findIdx (fun e => ! decide (e.1 < m.entries[i].1)) = i := by
    rw [List.findIdx_eq hi]
    refine ⟨by simp, fun j hj => ?_⟩
    simpa using getElem_lt_getElem (Nat.lt_trans hj hi) hi hj
  rw [List.takeWhile_eq_take_findIdx_not, hfound]

theorem before_getElem (hi : i < m.entries.length) :
    m.before m.entries[i].1 = if i = 0 then none else m.entries[i - 1]? := by
  unfold before
  rw [takeWhile_getElem hi, List.getLast?_take]
  split
  · rfl
  · have hlast : i - 1 < m.entries.length := by omega
    rw [List.getElem?_eq_getElem hlast, Option.some_or]

/-- The entry that a seek gives is the first one whose key is not before the one sought. -/
theorem seek_eq_bind (m : Keyspace) (key : Bytes) :
    m.seek key = (m.entries.findIdx? fun e => ¬ e.1 < key).bind fun i => m.entries[i]? :=
  List.find?_eq_bind_findIdx?_getElem?

end Keyspace

/-! ## Cursors of a closed session -/

namespace Cursor

variable {cursor : Cursor}

theorem entry?_of_closed (cursor : Cursor) : Cursor.entry? false cursor = none := by
  cases cursor <;> rfl

/-- Every move that asks something is refused. -/
theorem move_of_closed {m : Move} (h : (cursor.query? m).isSome = true) :
    (cursor.move none m).2 = .error (.closed .database) := by
  obtain ⟨query, hquery⟩ := Option.isSome_iff_exists.mp h
  unfold move
  rw [hquery]

end Cursor

/-! ## Positions -/

namespace Position

/-- The entry at a position. -/
def shows (entries : List Entry) : Position → Option Entry
  | .on i => entries[i]?
  | _ => none

/-- The position of an entry that may be missing. -/
def ofIndex? : Option Nat → Position
  | some i => .on i
  | none => .off

/-- Moves a position. -/
def move (entries : List Entry) : Move → Position → Position
  | .first, _ => if entries = [] then .off else .on 0
  | .last, _ => if entries = [] then .off else .on (entries.length - 1)
  | .seek key, _ => ofIndex? (entries.findIdx? fun e => ¬ e.1 < key)
  | .next, .on i => if i + 1 < entries.length then .on (i + 1) else .off
  | .prev, .on i => if i = 0 then .off else .on (i - 1)
  | .next, position => position
  | .prev, position => position

/-- A position is among the entries, or on none of them. -/
def Fits (entries : List Entry) (position : Position) : Prop :=
  ∀ i, position = .on i → i < entries.length

/-- The cursor at a position. -/
def cursor (m : Keyspace) : Position → Cursor
  | .unpositioned => .unpositioned
  | .on i => Cursor.land (.ok m.entries[i]?)
  | .off => .exhausted

variable {m : Keyspace} {entries : List Entry} {position : Position} {i : Nat}

theorem move_last : position.move entries .last =
    if entries = [] then .off else .on (entries.length - 1) := rfl

theorem move_next_on : (Position.on i).move entries .next =
    if i + 1 < entries.length then .on (i + 1) else .off := rfl

theorem move_prev_on : (Position.on i).move entries .prev =
    if i = 0 then .off else .on (i - 1) := rfl

theorem fits_unpositioned (entries : List Entry) : Fits entries .unpositioned :=
  fun _ h => Position.noConfusion h

theorem fits_off (entries : List Entry) : Fits entries .off := fun _ h => Position.noConfusion h

theorem fits_on (hi : i < entries.length) : Fits entries (.on i) := by
  rintro j ⟨⟩
  exact hi

/-- Only a position among the entries has one. -/
theorem isSome_shows (h : position.Fits entries) :
    (position.shows entries).isSome = true ↔ ∃ i, position = .on i := by
  cases position with
  | on i =>
    have hi := h i rfl
    rw [Position.shows, List.getElem?_eq_getElem hi]
    exact ⟨fun _ => ⟨i, rfl⟩, fun _ => rfl⟩
  | unpositioned => simp [Position.shows]
  | off => simp [Position.shows]

/-- A seek goes to the least entry whose key is not before the one that is sought. -/
theorem move_seek_eq_on_iff {key : Bytes} :
    position.move entries (.seek key) = .on i ↔
      ∃ hi : i < entries.length, ¬ entries[i].1 < key ∧ ∀ j (hj : j < i), entries[j].1 < key := by
  have hcount : position.move entries (.seek key) = .on i ↔
      entries.findIdx? (fun e => ¬ e.1 < key) = some i := by
    show ofIndex? _ = _ ↔ _
    cases entries.findIdx? (fun e => ¬ e.1 < key) <;> simp [ofIndex?]
  rw [hcount, List.findIdx?_eq_some_iff_getElem]
  simp only [decide_eq_true_eq, not_not]

/-- A move stays among the entries. -/
theorem Fits.move (h : position.Fits entries) (mv : Move) :
    (position.move entries mv).Fits entries := by
  have hends : ∀ i, i < entries.length ∨ entries = [] →
      Fits entries (if entries = [] then .off else .on i) := by
    intro i hi
    split
    · exact fits_off _
    · rename_i hne
      exact fits_on (hi.resolve_right hne)
  cases mv with
  | first =>
    refine hends 0 ?_
    cases entries <;> simp
  | last =>
    refine hends _ ?_
    cases entries <;> simp
  | seek key =>
    intro i hi
    exact (move_seek_eq_on_iff.mp hi).1
  | next =>
    cases position with
    | on i =>
      rw [move_next_on]
      split
      · rename_i hi
        exact fits_on hi
      · exact fits_off _
    | unpositioned => exact h
    | off => exact h
  | prev =>
    cases position with
    | on i =>
      have hi := h i rfl
      rw [move_prev_on]
      split
      · exact fits_off _
      · exact fits_on (by omega)
    | unpositioned => exact h
    | off => exact h

theorem cursor_on (hi : i < m.entries.length) :
    (Position.on i).cursor m = .valid m.entries[i] := by
  rw [cursor, List.getElem?_eq_getElem hi, Cursor.land]

/-- Of an open session, a cursor shows the entry at its position. -/
theorem shows_cursor (m : Keyspace) (position : Position) :
    Cursor.entry? true (position.cursor m) = position.shows m.entries := by
  cases position with
  | unpositioned => rfl
  | off => rfl
  | on i =>
    show Cursor.entry? true (Cursor.land (.ok m.entries[i]?)) = m.entries[i]?
    cases m.entries[i]? <;> rfl

theorem status_cursor (m : Keyspace) (position : Position) :
    (position.cursor m).status true = .ok () := by
  cases position with
  | unpositioned => rfl
  | off => rfl
  | on i =>
    show (Cursor.land (.ok m.entries[i]?)).status true = .ok ()
    cases m.entries[i]? <;> rfl

/-- Where a cursor lands on the entry of a number that may be missing. -/
theorem land_bind (m : Keyspace) (index? : Option Nat) :
    Cursor.land (.ok (index?.bind fun i => m.entries[i]?)) = (ofIndex? index?).cursor m := by
  cases index? <;> rfl

/-- A cursor moves as its position does, and every move succeeds. -/
theorem move_cursor (h : position.Fits m.entries) (mv : Move) :
    (position.cursor m).move (some fun query => .ok (m.answer query)) mv =
      ((position.move m.entries mv).cursor m, .ok ()) := by
  cases mv with
  | first =>
    have hland : Cursor.land (.ok m.first) = (position.move m.entries .first).cursor m := by
      unfold Keyspace.first Position.move
      cases hentries : m.entries with
      | nil => rfl
      | cons e rest =>
        simp only [cursor, hentries]
        rfl
    exact Prod.ext hland rfl
  | last =>
    have hland : Cursor.land (.ok m.last) = (position.move m.entries .last).cursor m := by
      rw [Keyspace.last, move_last]
      split
      · rename_i hnil
        rw [hnil]
        rfl
      · rw [List.getLast?_eq_getElem?]
        rfl
    exact Prod.ext hland rfl
  | seek key =>
    refine Prod.ext ?_ rfl
    show Cursor.land (.ok (m.seek key)) = _
    rw [Keyspace.seek_eq_bind]
    exact land_bind m _
  | next =>
    cases position with
    | unpositioned => rfl
    | off => rfl
    | on i =>
      have hi := h i rfl
      rw [cursor_on hi]
      refine Prod.ext ?_ rfl
      show Cursor.land (.ok (m.after m.entries[i].1)) = _
      rw [Keyspace.after_getElem hi, move_next_on]
      split
      · rfl
      · rename_i hend
        rw [List.getElem?_eq_none (Nat.le_of_not_lt hend)]
        rfl
  | prev =>
    cases position with
    | unpositioned => rfl
    | off => rfl
    | on i =>
      have hi := h i rfl
      rw [cursor_on hi]
      refine Prod.ext ?_ rfl
      show Cursor.land (.ok (m.before m.entries[i].1)) = _
      rw [Keyspace.before_getElem hi, move_prev_on]
      split <;> rfl

/-! ## Scans -/

/-- Positions after several moves. -/
def moveAll (entries : List Entry) (moves : List Move) (position : Position) : Position :=
  moves.foldl (fun position mv => position.move entries mv) position

theorem moveAll_append (entries : List Entry) (moves more : List Move) (position : Position) :
    position.moveAll entries (moves ++ more) =
      (position.moveAll entries moves).moveAll entries more :=
  List.foldl_append

/-- Going to the first entry and on shows the entries one after the other, and then none. -/
theorem shows_forward (entries : List Entry) (position : Position) (k : Nat) :
    (position.moveAll entries (.first :: List.replicate k .next)).shows entries =
      entries[k]? := by
  have hreached : position.moveAll entries (.first :: List.replicate k .next) =
      if k < entries.length then .on k else .off := by
    induction k with
    | zero => cases entries <;> rfl
    | succ k ih =>
      rw [List.replicate_succ', ← List.cons_append, moveAll_append, ih, moveAll,
        List.foldl_cons, List.foldl_nil]
      by_cases hk : k < entries.length
      · rw [if_pos hk]
        rfl
      · rw [if_neg hk, if_neg (by omega)]
        rfl
  rw [hreached]
  split
  · rfl
  · rename_i hend
    rw [List.getElem?_eq_none (Nat.le_of_not_lt hend)]
    rfl

/-- Going to the last entry and back shows them in reverse. -/
theorem shows_backward (entries : List Entry) (position : Position) (k : Nat) :
    (position.moveAll entries (.last :: List.replicate k .prev)).shows entries =
      entries.reverse[k]? := by
  have hreached : position.moveAll entries (.last :: List.replicate k .prev) =
      if k < entries.length then .on (entries.length - 1 - k) else .off := by
    induction k with
    | zero => cases entries <;> rfl
    | succ k ih =>
      rw [List.replicate_succ', ← List.cons_append, moveAll_append, ih, moveAll,
        List.foldl_cons, List.foldl_nil]
      by_cases hk : k + 1 < entries.length
      · have hne : entries.length - 1 - k ≠ 0 := by omega
        rw [if_pos (Nat.lt_of_succ_lt hk), if_pos hk, Position.move, if_neg hne]
        congr 1
      · rw [if_neg hk]
        by_cases hlast : k < entries.length
        · rw [if_pos hlast, Position.move, if_pos (by omega)]
        · rw [if_neg hlast]
          rfl
  rw [hreached]
  split
  · rename_i hk
    exact (List.getElem?_reverse hk).symm
  · rename_i hend
    rw [List.getElem?_eq_none (by rw [List.length_reverse]; omega)]
    rfl

end Position

end OrderedStore
