import OrderedStore.Proofs.Store.Navigation
import OrderedStore.Proofs.Walk

/-!
# What an iterator selects

`selection_exact` says what a walk over a range finds through an iterator: the entries of the
iterator's view that are in the range, in the direction of the walk, up to the limit.  Where
the iterator stood before makes no difference, because a walk begins with a move that asks
nothing of it (`Cursor.move_jump`).  Through an iterator of a closed session a walk finds that
the session is closed.

The walk is the one that nothing bounds, so that it comes to an end is part of the statement.
From its first move on, the iterator goes where a position in its view goes (`simulates`), and
a walk of positions ends because each step leaves one entry less to come by.

All that the iterator needs is `Reads`: its session is open, its view has not been taken
away and the engine answers.  In a run that nobody disturbs that is so as long as the session
and the iterator are there (`reads_of_made`).
-/

set_option autoImplicit false

namespace OrderedStore

/-- The first move of a walk leads to the same place from everywhere. -/
theorem Cursor.move_jump (cursor other : Cursor) (reader : Option Reader) (range : Range) :
    (cursor.move reader range.jump).2 = (other.move reader range.jump).2 ∧
      (cursor.move reader range.jump).1 = (other.move reader range.jump).1 := by
  obtain ⟨start, limit, backward⟩ := range
  cases start with
  | some key => cases reader <;> exact ⟨rfl, rfl⟩
  | none => cases backward <;> cases reader <;> exact ⟨rfl, rfl⟩

theorem Cursor.isSome_query?_jump (cursor : Cursor) (range : Range) :
    (cursor.query? range.jump).isSome = true := by
  obtain ⟨start, limit, backward⟩ := range
  cases start with
  | some key => rfl
  | none => cases backward <;> rfl

namespace Store

open Chronicle

variable {c : Chronicle} {s : Store} {id : SessionId} {iterator : IteratorId} {m : Keyspace}
  {position : Position} {cursor : Cursor}

/-- The iterator belongs to an open session, has the map `m` as its view, and the engine
answers.  Nothing is said of where it stands. -/
structure Reads (s : Store) (id : SessionId) (iterator : IteratorId) (m : Keyspace) : Prop where
  owner : s.roster.owner? (.iterator iterator) = some id
  view : s.roster.viewOf (.iterator iterator) = some m
  answers : ∃ engine, s.roster.engine? id = some engine ∧ engine.access s.volume = .ok ()

namespace Reads

variable (h : s.Reads id iterator m)

include h

/-- What is in the rows of the iterator and of its session. -/
theorem row : ∃ row lease session, s.iterators.get? iterator = some row ∧ row.owner = id ∧
    row.view = .ok lease ∧ s.pinned lease = .ok m ∧ s.sessions.get? id = some session ∧
    session.engine.access s.volume = .ok () := by
  obtain ⟨engine, hengine, haccess⟩ := h.answers
  obtain ⟨session, hsession, rfl⟩ := Option.map_eq_some_iff.mp hengine
  obtain ⟨row, hrow, hid⟩ := Option.map_eq_some_iff.mp h.owner
  obtain ⟨lease, hlease, hread⟩ := Option.bind_eq_some_iff.mp h.view
  obtain ⟨row', hrow', hlease⟩ := Option.bind_eq_some_iff.mp hlease
  obtain rfl := Option.some.inj (hrow.symm.trans hrow')
  refine ⟨row, lease, session, hrow, hid, ?_, Tells.pinned_of_view? hread, hsession, haccess⟩
  cases hview : row.view with
  | error e => simp [hview, Except.toOption] at hlease
  | ok lease' =>
    rw [hview] at hlease
    exact congrArg _ (Option.some.inj hlease)

theorem isOpen : s.isOpen id = true := by
  obtain ⟨_, _, session, _, _, _, _, hsession, _⟩ := h.row
  rw [Store.isOpen, hsession]
  rfl

/-- An iterator has as many entries to come by as its map has. -/
theorem extent : s.extent iterator = m.size := by
  obtain ⟨row, lease, _, hrow, _, hview, hpinned, _⟩ := h.row
  unfold Store.extent
  rw [hrow, Option.map_some, hview]
  simp only [hpinned]

/-- A move keeps it, and the cursor goes where the answers of the map lead. -/
theorem move (hcursor : s.roster.cursor? iterator = some cursor) (mv : Move) :
    Reads (s.move iterator mv).1 id iterator m ∧
      (s.move iterator mv).1.roster.cursor? iterator =
        some (cursor.move (some fun query => .ok (m.answer query)) mv).1 ∧
      (s.move iterator mv).2 = (cursor.move (some fun query => .ok (m.answer query)) mv).2 := by
  obtain ⟨row, lease, session, hrow, hid, hview, hpinned, hsession, haccess⟩ := h.row
  obtain ⟨hroster, hvolume, houtcome⟩ := move_of_some hrow mv
  have hreader : s.reader row = some fun query => .ok (m.answer query) := by
    rw [Store.reader, hid, hsession]
    refine congrArg some (funext fun query => ?_)
    simp only [answer, hview, hpinned, haccess]
    rfl
  have hrowCursor : row.cursor = cursor := by
    rw [Roster.cursor?, show s.roster.iterators.get? iterator = some row from hrow] at hcursor
    exact Option.some.inj hcursor
  rw [hreader, hrowCursor] at hroster houtcome
  -- An engine that answers is left as it is.
  have hengine : ∀ engine, s.roster.engine? id = some engine →
      (s.move iterator mv).1.roster.engine? id = some engine := by
    intro engine hengine
    have hsame : engine.accessed s.volume = engine := by
      have hsession' : s.roster.engine? id = some session.engine :=
        Roster.engine?_of_session hsession
      obtain rfl := Option.some.inj (hsession'.symm.trans hengine)
      exact Engine.accessed_of_ok haccess
    rw [hroster]
    show Roster.engine? (if s.reaches row mv then _ else _) id = some engine
    split
    · rw [Roster.engine?_modifyEngine, hid, if_pos rfl, hengine, Option.map_some, hsame]
    · exact hengine
  refine ⟨⟨?_, ?_, ?_⟩, ?_, houtcome⟩
  · rw [hroster, Roster.owner?_setCursor]
    split
    · exact (Roster.owner?_modifySession _).trans h.owner
    · exact h.owner
  · rw [hroster, Roster.Coherent.viewOf_setCursor]
    split
    · exact (Roster.Coherent.viewOf_modifyEngine _ _ _).trans h.view
    · exact h.view
  · obtain ⟨engine, hsome, hanswers⟩ := h.answers
    exact ⟨engine, hengine engine hsome, hvolume ▸ hanswers⟩
  · rw [hroster, Roster.cursor?_setCursor, if_pos rfl]
    have hsome : Option.isSome (Roster.cursor?
        (if s.reaches row mv then s.roster.modifyEngine row.owner (Engine.accessed s.volume)
          else s.roster) iterator) = true := by
      split <;> exact Option.isSome_iff_exists.mpr ⟨cursor, hcursor⟩
    obtain ⟨_, hsome⟩ := Option.isSome_iff_exists.mp hsome
    rw [hsome, Option.map_some]

end Reads

/-- So far an iterator has only been moved, and it is where a position is. -/
structure Strolls (s₀ : Store) (id : SessionId) (iterator : IteratorId) (m : Keyspace) (s : Store)
    (position : Position) : Prop where
  moves : ∃ moves : List Move, s = s₀.run (moves.map (.move iterator))
  reads : s.Reads id iterator m
  cursor : s.roster.cursor? iterator = some (position.cursor m)
  fits : position.Fits m.entries

/-- An iterator moves and shows as its position does. -/
theorem simulates (s₀ : Store) (id : SessionId) (iterator : IteratorId) (m : Keyspace) :
    (walker iterator).Simulates (Position.walker m.entries) (s₀.Strolls id iterator m) where
  move {s position} mv h := by
    obtain ⟨moves, hs⟩ := h.moves
    obtain ⟨hreads, hcursor, houtcome⟩ := h.reads.move h.cursor mv
    rw [Position.move_cursor h.fits] at hcursor houtcome
    refine ⟨⟨⟨moves ++ [mv], ?_⟩, hreads, hcursor, h.fits.move mv⟩, houtcome⟩
    rw [List.map_append, run_append, ← hs]
    rfl
  entry? {s position} h := by
    obtain ⟨row, _, _, hrow, hid, _⟩ := h.reads.row
    have hcursor := h.cursor
    rw [Roster.cursor?, show s.roster.iterators.get? iterator = some row from hrow] at hcursor
    show s.entry? iterator = position.shows m.entries
    rw [Store.entry?, hrow, Option.bind_some, hid, h.reads.isOpen, Option.some.inj hcursor,
      Position.shows_cursor]
  status {s position} h := by
    obtain ⟨row, _, _, hrow, hid, _⟩ := h.reads.row
    have hcursor := h.cursor
    rw [Roster.cursor?, show s.roster.iterators.get? iterator = some row from hrow] at hcursor
    show s.status iterator = .ok ()
    rw [Store.status, hrow]
    simp only [hid, h.reads.isOpen, Option.some.inj hcursor, Position.status_cursor]

namespace Reads

/-- A walk begins where a position in the map would begin, wherever the iterator stands. -/
theorem strolls_jump (h : s.Reads id iterator m) (range : Range) :
    Walker.Alike (s.Strolls id iterator m) (s.move iterator range.jump)
      ((Position.walker m.entries).move range.jump .unpositioned) := by
  obtain ⟨cursor, hcursor⟩ : ∃ cursor, s.roster.cursor? iterator = some cursor := by
    obtain ⟨row, _, _, hrow, _⟩ := h.row
    exact ⟨row.cursor, congrArg (Option.map Iterator.cursor) hrow⟩
  obtain ⟨hreads, hmoved, houtcome⟩ := h.move hcursor range.jump
  have hfits := Position.fits_unpositioned m.entries
  obtain ⟨hsame, hplace⟩ := Cursor.move_jump cursor (Position.unpositioned.cursor m)
    (some fun query => .ok (m.answer query)) range
  rw [hplace, Position.move_cursor hfits] at hmoved
  rw [hsame, Position.move_cursor hfits] at houtcome
  exact ⟨⟨⟨[range.jump], rfl⟩, hreads, hmoved, hfits.move _⟩, houtcome⟩

/-- A walk comes to an end with the entries in the range, and has only moved the iterator. -/
theorem selects (h : s.Reads id iterator m) (range : Range) :
    ∃ moves : List Move, Reads (s.run (moves.map (.move iterator))) id iterator m ∧
      (walker iterator).Selects range s (s.run (moves.map (.move iterator)))
        (.ok (range.pick m)) := by
  obtain ⟨position, hselects⟩ := Position.selects_walker range m .unpositioned
  obtain ⟨s', hselected, hstrolls⟩ := (simulates s id iterator m).selects hselects
    (h.strolls_jump range)
  obtain ⟨moves, rfl⟩ := hstrolls.moves
  exact ⟨moves, hstrolls.reads, hselected⟩

theorem select_of_selects {s' : Store} {range : Range} (h : s.Reads id iterator m)
    (hselects : (walker iterator).Selects range s s' (.ok (range.pick m))) :
    s.select iterator range = (s', .ok (range.pick m)) := by
  refine Walker.select_of_selects hselects ?_
  rw [h.extent]
  exact range.length_pick_le m

end Reads

/-! ## Iterators of a run -/

theorem reads_of_positioned (h : c.Positioned id iterator m position)
    (htells : c.Tells s.volume s.roster) : s.Reads id iterator m := by
  obtain ⟨latest, hlatest⟩ := Option.isSome_iff_exists.mp h.open_
  obtain ⟨session, hsession, _⟩ := htells.session hlatest
  refine ⟨?_, htells.view h.view (htells.isOpen_of_committed hlatest), session.engine, ?_, ?_⟩
  · rw [htells.owner, h.view]
    rfl
  · exact Roster.engine?_of_session hsession
  · exact (htells.serves.sits (Roster.engine?_of_session hsession)).access

/-- In a run that nobody disturbs, an iterator reads the map that it was made over as long as
it and its session are there. -/
theorem reads_of_made {v : Volume} (h : v.WellFormed) (before after : List Action)
    {snapshot : Option SnapshotId}
    (hview : (((ofVolume v).run before).viewAt id snapshot).2 = .ok m)
    (hmade : (((ofVolume v).run before).iterate id snapshot).2 = .ok iterator)
    (hafter : ∀ action ∈ after, action.Leaves id iterator) :
    Reads ((((ofVolume v).run before).iterate id snapshot).1.run after) id iterator m := by
  obtain ⟨c, hpositioned, htells⟩ := positioned_of_made h before after hview hmade hafter
  exact reads_of_positioned hpositioned htells

/-- A walk through an iterator of a closed session finds that it is closed. -/
theorem selects_of_closed (howner : s.roster.owner? (.iterator iterator) = some id)
    (hclosed : s.isOpen id = false) (range : Range) :
    ∃ s', (walker iterator).Selects range s s' (.error (.closed .database)) ∧
      s.select iterator range = (s', .error (.closed .database)) := by
  obtain ⟨row, hrow, hid⟩ := Option.map_eq_some_iff.mp howner
  have hreader : s.reader row = none := by
    rw [Store.isOpen, Option.isSome_eq_false_iff, Option.isNone_iff_eq_none] at hclosed
    rw [Store.reader, hid, hclosed]
    rfl
  have happroach : (walker iterator).approach range s =
      ((s.move iterator range.jump).1, .error (.closed .database)) := by
    refine Walker.approach_of_error (Prod.ext rfl ?_)
    show (s.move iterator range.jump).2 = _
    rw [(move_of_some hrow range.jump).2.2, hreader]
    exact Cursor.move_of_closed (row.cursor.isSome_query?_jump range)
  refine ⟨_, .astray happroach, ?_⟩
  rw [select, Walker.select_eq, happroach]

/-- Through an iterator of an open session whose engine answers, wherever the iterator stands,
a walk comes to an end with the entries of the view that are in the range, each of them once
and in the direction of the walk, up to the limit.  If the session has been closed it ends
with that. -/
theorem selection_exact (range : Range) (s : Store) (id : SessionId) (iterator : IteratorId) :
    (∀ m, s.Reads id iterator m →
      ((range.pick m).Pairwise fun a b => range.precedes a.1 b.1) ∧
      ∃ s', s'.Reads id iterator m ∧ s.select iterator range = (s', .ok (range.pick m)) ∧
        ∀ s'' outcome, (walker iterator).Selects range s s'' outcome ↔
          s'' = s' ∧ outcome = .ok (range.pick m)) ∧
    (s.roster.owner? (.iterator iterator) = some id → s.isOpen id = false →
      ∃ s', s.select iterator range = (s', .error (.closed .database)) ∧
        ∀ s'' outcome, (walker iterator).Selects range s s'' outcome ↔
          s'' = s' ∧ outcome = .error (.closed .database)) := by
  -- A walk that has come to an end in one way does not in another.
  have hiff : ∀ {s' : Store} {found : Except Error (List Entry)},
      (walker iterator).Selects range s s' found →
      ∀ s'' outcome, (walker iterator).Selects range s s'' outcome ↔
        s'' = s' ∧ outcome = found := by
    intro s' found hselects s'' outcome
    refine ⟨fun hother => hother.unique hselects, ?_⟩
    rintro ⟨rfl, rfl⟩
    exact hselects
  constructor
  · intro m h
    obtain ⟨moves, hreads, hselects⟩ := h.selects range
    exact ⟨range.pairwise_pick m, _, hreads, h.select_of_selects hselects, hiff hselects⟩
  · intro howner hclosed
    obtain ⟨s', hselects, hselect⟩ := selects_of_closed howner hclosed range
    exact ⟨s', hselect, hiff hselects⟩

/-- The theorem on an iterator that stands on the last of two entries: a walk backward from a
key between them finds the first one, and not the key that has been put there since.  After
the session has been closed, a walk finds that. -/
theorem selection_exact_in_memory :
    Reads ((((ofVolume .empty).run
        [.openMemory {}, .put ⟨0⟩ [1] [5] true, .put ⟨0⟩ [3] [6] true]).iterate ⟨0⟩ none).1.run
          [.move ⟨0⟩ .last, .put ⟨0⟩ [2] [7] true]) ⟨0⟩ ⟨0⟩
        ((Keyspace.empty.insert [1] [5]).insert [3] [6]) ∧
      (select ((((ofVolume .empty).run
        [.openMemory {}, .put ⟨0⟩ [1] [5] true, .put ⟨0⟩ [3] [6] true]).iterate ⟨0⟩ none).1.run
          [.move ⟨0⟩ .last, .put ⟨0⟩ [2] [7] true]) ⟨0⟩ ⟨some [2], none, true⟩).2 =
        .ok [([1], [5])] ∧
      (select ((((ofVolume .empty).run
        [.openMemory {}, .put ⟨0⟩ [1] [5] true, .put ⟨0⟩ [3] [6] true]).iterate ⟨0⟩ none).1.run
          [.move ⟨0⟩ .last, .close ⟨0⟩]) ⟨0⟩ ⟨some [2], none, true⟩).2 =
        .error (.closed .database) := by
  have hreads := @reads_of_made ⟨0⟩ ⟨0⟩ ((Keyspace.empty.insert [1] [5]).insert [3] [6]) .empty
    Volume.wellFormed_empty [.openMemory {}, .put ⟨0⟩ [1] [5] true, .put ⟨0⟩ [3] [6] true]
    [.move ⟨0⟩ .last, .put ⟨0⟩ [2] [7] true] none rfl rfl (by simp [Action.Leaves])
  obtain ⟨_, _, _, hselect, _⟩ := (selection_exact ⟨some [2], none, true⟩ _ ⟨0⟩ ⟨0⟩).1 _ hreads
  obtain ⟨_, hclosed, _⟩ := (selection_exact ⟨some [2], none, true⟩ ((((ofVolume .empty).run
    [.openMemory {}, .put ⟨0⟩ [1] [5] true, .put ⟨0⟩ [3] [6] true]).iterate ⟨0⟩ none).1.run
      [.move ⟨0⟩ .last, .close ⟨0⟩]) ⟨0⟩ ⟨0⟩).2 rfl rfl
  exact ⟨hreads, congrArg Prod.snd hselect, congrArg Prod.snd hclosed⟩

end Store

end OrderedStore
