import OrderedStore.Proofs.Cursor

/-!
# Where a cursor stands when reads may fail

The view of an iterator is what came of opening it, and each read of it may be in trouble of its
own.  The trouble is a parameter here: nothing is assumed about which reads fail and with what.

A `Standing` is a `Position` among the entries of the view, or the error of the move that failed
last.  `move_cursor` says that a cursor goes where its standing goes, and gives the same outcome.

The error that a standing keeps can also be told from the calls alone: a failure sets it, a seek
that succeeds clears it, and a step leaves it alone (`error?_move`).
-/

set_option autoImplicit false

namespace OrderedStore

/-- Does the move ask its question from wherever the cursor stands? -/
def Move.seeks : Move → Bool
  | .first | .last | .seek _ => true
  | .next | .prev => false

/-- What came of opening the view of an iterator. -/
abbrev Outlook := Except Error Keyspace

namespace Outlook

/-- The entries that there are to see. -/
def seen (view : Outlook) : Keyspace := view.toOption.getD .empty

/-- What is in the way of a read: the failure to open the view, or else the trouble of the
moment. -/
def obstacle (view : Outlook) (trouble : Option Error) : Option Error :=
  match view with
  | .error e => some e
  | .ok _ => trouble

/-- Reads a view in spite of some trouble. -/
def read (view : Outlook) (trouble : Option Error) : Reader := fun query =>
  match obstacle view trouble with
  | some e => .error e
  | none => .ok (view.seen.answer query)

theorem read_of_obstacle {view : Outlook} {trouble : Option Error} {e : Error}
    (h : obstacle view trouble = some e) : read view trouble = fun _ => .error e := by
  funext query
  simp only [read, h]

theorem read_of_free {view : Outlook} {trouble : Option Error}
    (h : obstacle view trouble = none) :
    read view trouble = fun query => .ok (view.seen.answer query) := by
  funext query
  simp only [read, h]

end Outlook

namespace Cursor

variable {cursor : Cursor} {m : Move} {query : Keyspace.Query}

/-- A seek always asks something, and a step only from an entry. -/
theorem isSome_query? (cursor : Cursor) (m : Move) :
    (cursor.query? m).isSome = (m.seeks || (Cursor.entry? true cursor).isSome) := by
  cases m <;> cases cursor <;> rfl

theorem move_of_idle (h : cursor.query? m = none) (reader : Option Reader) :
    cursor.move reader m = (cursor, .ok ()) := by
  simp only [move, h]

theorem move_of_asked (h : cursor.query? m = some query) (read : Reader) :
    cursor.move (some read) m = (land (read query), (read query).map fun _ => ()) := by
  simp only [move, h]

theorem move_none_of_asked (h : cursor.query? m = some query) :
    cursor.move none m = (.exhausted, .error (.closed .database)) := by
  simp only [move, h]

/-- No cursor of a closed session is on an entry once it has been moved. -/
theorem entry?_move_none (cursor : Cursor) (m : Move) :
    Cursor.entry? true (cursor.move none m).1 = none := by
  have hasks := isSome_query? cursor m
  cases hquery : cursor.query? m with
  | some query =>
    rw [move_none_of_asked hquery]
    rfl
  | none =>
    rw [hquery, Option.isSome_none] at hasks
    have hnone := (Bool.or_eq_false_iff.mp hasks.symm).2
    rw [Option.isSome_eq_false_iff, Option.isNone_iff_eq_none] at hnone
    rw [move_of_idle hquery, hnone]

end Cursor

/-! ## Standings -/

/-- A place among entries, or the error of a move that failed. -/
inductive Standing where
  | sound (position : Position)
  | degraded (error : Error)
  deriving DecidableEq, Repr

namespace Standing

/-- The place among the entries; off them after a failure. -/
def position : Standing → Position
  | .sound position => position
  | .degraded _ => .off

/-- The error that is kept. -/
def error? : Standing → Option Error
  | .sound _ => none
  | .degraded e => some e

/-- Does the move ask anything from here? -/
def asks (mv : Move) : Standing → Bool
  | .sound (.on _) => true
  | _ => mv.seeks

/-- Moves a standing past an obstacle, if there is one. -/
def move (entries : List Entry) (obstacle : Option Error) (mv : Move) (standing : Standing) :
    Standing × Except Error Unit :=
  if standing.asks mv then
    match obstacle with
    | some e => (.degraded e, .error e)
    | none => (.sound (standing.position.move entries mv), .ok ())
  else (standing, .ok ())

/-- The entry that a standing shows. -/
def shows (entries : List Entry) (standing : Standing) : Option Entry :=
  standing.position.shows entries

/-- The outcome of the last move. -/
def status : Standing → Except Error Unit
  | .sound _ => .ok ()
  | .degraded e => .error e

/-- The cursor that stands so. -/
def cursor (m : Keyspace) : Standing → Cursor
  | .sound position => position.cursor m
  | .degraded e => .degraded e

/-- A standing is among the entries, or on none of them. -/
def Fits (entries : List Entry) (standing : Standing) : Prop := standing.position.Fits entries

variable {m : Keyspace} {entries : List Entry} {standing : Standing} {mv : Move}
  {obstacle : Option Error}

theorem fits_degraded (entries : List Entry) (e : Error) : Fits entries (.degraded e) :=
  Position.fits_off entries

theorem move_of_idle (h : standing.asks mv = false) :
    standing.move entries obstacle mv = (standing, .ok ()) :=
  if_neg (Bool.not_eq_true _ ▸ h)

theorem move_of_obstacle {e : Error} (h : standing.asks mv = true) :
    standing.move entries (some e) mv = (.degraded e, .error e) := if_pos h

theorem move_of_free (h : standing.asks mv = true) :
    standing.move entries none mv = (.sound (standing.position.move entries mv), .ok ()) :=
  if_pos h

theorem Fits.move (h : standing.Fits entries) (obstacle : Option Error) (mv : Move) :
    (standing.move entries obstacle mv).1.Fits entries := by
  cases hasks : standing.asks mv with
  | false =>
    rw [move_of_idle hasks]
    exact h
  | true =>
    cases obstacle with
    | some e =>
      rw [move_of_obstacle hasks]
      exact fits_degraded entries e
    | none =>
      rw [move_of_free hasks]
      exact Position.Fits.move h mv

/-- Of an open session, a cursor shows the entry of its standing. -/
theorem shows_cursor (m : Keyspace) (standing : Standing) :
    Cursor.entry? true (standing.cursor m) = standing.shows m.entries := by
  cases standing with
  | sound position => exact position.shows_cursor m
  | degraded e => rfl

theorem status_cursor (m : Keyspace) (standing : Standing) :
    (standing.cursor m).status true = standing.status := by
  cases standing with
  | sound position => exact position.status_cursor m
  | degraded e => rfl

theorem cursor_eq_unpositioned_iff (h : standing.Fits m.entries) :
    standing.cursor m = .unpositioned ↔ standing = .sound .unpositioned := by
  cases standing with
  | degraded e => simp [cursor]
  | sound position =>
    cases position with
    | unpositioned => simp [cursor, Position.cursor]
    | off => simp [cursor, Position.cursor]
    | on i => simp [cursor, Position.cursor_on (h i rfl)]

theorem cursor_eq_degraded_iff (h : standing.Fits m.entries) {e : Error} :
    standing.cursor m = .degraded e ↔ standing.error? = some e := by
  cases standing with
  | degraded e' => simp [cursor, error?]
  | sound position =>
    cases position with
    | unpositioned => simp [cursor, Position.cursor, error?]
    | off => simp [cursor, Position.cursor, error?]
    | on i => simp [cursor, Position.cursor_on (h i rfl), error?]

theorem status_eq_error? (standing : Standing) :
    standing.status = standing.error?.elim (.ok ()) .error := by
  cases standing <;> rfl

theorem shows_of_error? {e : Error} (h : standing.error? = some e) :
    standing.shows entries = none := by
  cases standing with
  | sound position => cases h
  | degraded e' => rfl

theorem asks_of_error? {e : Error} (h : standing.error? = some e) :
    standing.asks mv = mv.seeks := by
  cases standing with
  | sound position => cases h
  | degraded e' => rfl

theorem asks_of_seeks (h : mv.seeks = true) (standing : Standing) : standing.asks mv = true := by
  unfold asks
  split
  · rfl
  · exact h

theorem isSome_query?_cursor (h : standing.Fits m.entries) (mv : Move) :
    ((standing.cursor m).query? mv).isSome = standing.asks mv := by
  cases standing with
  | degraded e => cases mv <;> rfl
  | sound position =>
    cases position with
    | unpositioned => cases mv <;> rfl
    | off => cases mv <;> rfl
    | on i =>
      rw [show (sound (.on i)).cursor m = .valid _ from Position.cursor_on (h i rfl)]
      cases mv <;> rfl

/-- With nothing in the way a cursor goes where the position of its standing goes. -/
theorem move_cursor_free (h : standing.Fits m.entries) (hasks : standing.asks mv = true) :
    (standing.cursor m).move (some fun query => .ok (m.answer query)) mv =
      ((standing.position.move m.entries mv).cursor m, .ok ()) := by
  cases standing with
  | sound position => exact Position.move_cursor h mv
  | degraded e =>
    -- A seek does not look at where the cursor stands.
    have hsame : (Cursor.degraded e).move (some fun query => .ok (m.answer query)) mv =
        (Position.off.cursor m).move (some fun query => .ok (m.answer query)) mv := by
      cases mv with
      | next => cases hasks
      | prev => cases hasks
      | first => rfl
      | last => rfl
      | seek key => rfl
    exact hsame.trans (Position.move_cursor h mv)

/-- A cursor moves as its standing does, with the same outcome. -/
theorem move_cursor {view : Outlook} (h : standing.Fits view.seen.entries)
    (trouble : Option Error) (mv : Move) :
    (standing.cursor view.seen).move (some (view.read trouble)) mv =
      ((standing.move view.seen.entries (view.obstacle trouble) mv).1.cursor view.seen,
        (standing.move view.seen.entries (view.obstacle trouble) mv).2) := by
  have hquery := isSome_query?_cursor h mv
  cases hasks : standing.asks mv with
  | false =>
    rw [hasks, Option.isSome_eq_false_iff, Option.isNone_iff_eq_none] at hquery
    rw [move_of_idle hasks, Cursor.move_of_idle hquery]
  | true =>
    cases hobstacle : view.obstacle trouble with
    | some e =>
      rw [hasks] at hquery
      obtain ⟨query, hquery⟩ := Option.isSome_iff_exists.mp hquery
      rw [Outlook.read_of_obstacle hobstacle, Cursor.move_of_asked hquery, move_of_obstacle hasks]
      rfl
    | none =>
      rw [Outlook.read_of_free hobstacle, move_cursor_free h hasks, move_of_free hasks]
      rfl

end Standing

/-! ## The error that is kept -/

/-- A positioning call and its outcome. -/
abbrev Positioning := Move × Except Error Unit

/-- The error that is kept after a call. -/
def Positioning.retain (kept : Option Error) : Positioning → Option Error
  | (_, .error e) => some e
  | (m, .ok ()) => if m.seeks then none else kept

/-- A standing keeps the error that the calls tell of. -/
theorem Standing.error?_move (standing : Standing) (entries : List Entry)
    (obstacle : Option Error) (mv : Move) :
    (standing.move entries obstacle mv).1.error? =
      Positioning.retain standing.error? (mv, (standing.move entries obstacle mv).2) := by
  cases hasks : standing.asks mv with
  | false =>
    have hseeks : mv.seeks = false := by
      rw [← Bool.not_eq_true]
      exact fun h => absurd (standing.asks_of_seeks h) (by simp [hasks])
    rw [move_of_idle hasks]
    simp only [Positioning.retain, hseeks, Bool.false_eq_true, if_false]
  | true =>
    cases obstacle with
    | some e =>
      rw [move_of_obstacle hasks]
      rfl
    | none =>
      rw [move_of_free hasks]
      show none = if mv.seeks then none else standing.error?
      split
      · rfl
      · -- Only from an entry does a step ask anything, and there no error is kept.
        rename_i hstep
        cases standing with
        | sound position => rfl
        | degraded e => exact absurd hasks hstep

end OrderedStore
