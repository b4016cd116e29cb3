import OrderedStore.Proofs.Cursor
import OrderedStore.Proofs.Store.Isolation

/-!
# Navigation

`cursor_simulates_position` says that an iterator of an open session is at every moment of
every run where the moves sent to it put a `Position` in the map it was made over.  What else
is done to the store in between does not matter: writes, other snapshots and
iterators, other sessions.  Only the end of the session or of the iterator ends it.

The invariant is `Chronicle.Positioned`: the chronicle has for the iterator the cursor that
goes with the position.  One action keeps it (`Positioned.perform`), and so does a run.
-/

set_option autoImplicit false

namespace OrderedStore

/-- The move that an action makes an iterator do. -/
def Store.Action.steer? (iterator : IteratorId) : Store.Action → Option Move
  | .move other mv => if other = iterator then some mv else none
  | _ => none

/-- The action ends neither the session nor the iterator. -/
def Store.Action.Leaves (id : SessionId) (iterator : IteratorId) : Store.Action → Prop
  | .close other => other ≠ id
  | .discard other => other ≠ id
  | .dropIterator other => other ≠ iterator
  | _ => True

namespace Chronicle

open Store

/-- An iterator of an open session over the map `m` is at a position. -/
structure Positioned (c : Chronicle) (id : SessionId) (iterator : IteratorId) (m : Keyspace)
    (position : Position) : Prop where
  view : c.views (.iterator iterator) = some (id, m)
  open_ : (c.committed id).isSome = true
  cursor : c.cursors iterator = some (position.cursor m)
  fits : position.Fits m.entries

variable {c : Chronicle} {s : Store} {id other : SessionId} {iterator : IteratorId} {m : Keyspace}
  {position : Position} {snapshot : Option SnapshotId}

/-! ## Making an iterator -/

/-- An iterator that has been made is a new one, over the view that was asked for. -/
theorem Tells.iterate_spec (h : c.Tells s.volume s.roster)
    (hmade : (s.iterate id snapshot).2 = .ok iterator) :
    c.views (.iterator iterator) = none ∧
      ∃ p, (s.viewAt id snapshot).2 = .ok p ∧ (∃ latest, c.committed id = some latest) ∧
        c.note .empty (.iterate id snapshot) (.iterator (.ok iterator)) =
          (c.see (.iterator iterator) (some (id, p))).place iterator (some .unpositioned) ∧
        ((c.see (.iterator iterator) (some (id, p))).place iterator (some .unpositioned)).Tells
          (s.iterate id snapshot).1.volume (s.iterate id snapshot).1.roster := by
  cases hread : s.checkRead id snapshot with
  | error e =>
    rw [iterate_of_error hread] at hmade
    simp at hmade
  | ok _ =>
    obtain ⟨⟨latest, hlatest⟩, p, hp⟩ := h.checkRead_eq_ok_iff.mp hread
    obtain ⟨houtcome, htells⟩ := h.iterate_eq hlatest hp
    rw [houtcome] at hmade
    obtain rfl := Except.ok.inj hmade
    refine ⟨h.views_none h.coherent.owner?_iterator_fresh, p, h.viewAt_eq hlatest hp,
      ⟨latest, hlatest⟩, ?_, htells⟩
    rw [note, hp]

namespace Positioned

/-- A new iterator of an open session is at no entry yet. -/
theorem made (hopen : (c.committed id).isSome = true) (iterator : IteratorId) (m : Keyspace) :
    ((c.see (.iterator iterator) (some (id, m))).place iterator
      (some .unpositioned)).Positioned id iterator m .unpositioned := by
  refine ⟨?_, hopen, ?_, Position.fits_unpositioned _⟩
  · rw [views_place, views_see, if_pos rfl]
  · rw [cursors_place, if_pos rfl]
    rfl

/-- Whatever keeps the map of the iterator, the session and the cursor keeps the position. -/
theorem congr (h : c.Positioned id iterator m position) {c' : Chronicle}
    (hview : c'.views (.iterator iterator) = c.views (.iterator iterator))
    (hopen : (c.committed id).isSome = true → (c'.committed id).isSome = true)
    (hcursor : c'.cursors iterator = c.cursors iterator) :
    c'.Positioned id iterator m position where
  view := hview.trans h.view
  open_ := hopen h.open_
  cursor := hcursor.trans h.cursor
  fits := h.fits

theorem hold (h : c.Positioned id iterator m position) {latest : Option Keyspace}
    (hopen : other = id → latest.isSome = true) :
    (c.hold other latest).Positioned id iterator m position := by
  refine h.congr rfl (fun hsome => ?_) rfl
  rw [committed_hold]
  split
  · rename_i heq
    exact hopen heq.symm
  · exact hsome

theorem change (h : c.Positioned id iterator m position) (f : Keyspace → Keyspace) :
    (c.change other f).Positioned id iterator m position := by
  refine h.hold fun heq => ?_
  rw [heq, Option.isSome_map]
  exact h.open_

theorem see_snapshot (h : c.Positioned id iterator m position) (snapshot : SnapshotId)
    (view : Option (SessionId × Keyspace)) :
    (c.see (.snapshot snapshot) view).Positioned id iterator m position :=
  h.congr (by rw [views_see, if_neg (by simp)]) (fun hsome => hsome) rfl

/-- Another iterator comes or goes. -/
theorem see_iterator (h : c.Positioned id iterator m position) {another : IteratorId}
    (hne : another ≠ iterator) (view : Option (SessionId × Keyspace)) (cursor : Option Cursor) :
    ((c.see (.iterator another) view).place another cursor).Positioned id iterator m position := by
  refine h.congr ?_ (fun hsome => hsome) ?_
  · rw [views_place, views_see, if_neg (by simpa using hne.symm)]
  · rw [cursors_place, if_neg hne.symm, cursors_see]

theorem reader (h : c.Positioned id iterator m position) :
    c.reader iterator = some fun query => .ok (m.answer query) := by
  obtain ⟨latest, hlatest⟩ := Option.isSome_iff_exists.mp h.open_
  rw [Chronicle.reader, h.view, Option.bind_some, hlatest]
  rfl

/-- The iterator itself moves. -/
theorem move (h : c.Positioned id iterator m position) (mv : Move) :
    (c.place iterator ((c.cursors iterator).map fun cursor =>
      (cursor.move (c.reader iterator) mv).1)).Positioned id iterator m
        (position.move m.entries mv) where
  view := h.view
  open_ := h.open_
  cursor := by
    rw [cursors_place, if_pos rfl, h.cursor, h.reader, Option.map_some,
      Position.move_cursor h.fits]
  fits := h.fits.move mv

/-- One action moves the position if it moves the iterator, and keeps it otherwise. -/
theorem perform (h : c.Positioned id iterator m position) (htells : c.Tells s.volume s.roster)
    {action : Action} (hleaves : action.Leaves id iterator) :
    (Store.chronicle (s, c) action).2.Positioned id iterator m
      (position.moveAll m.entries (action.steer? iterator).toList) := by
  simp only [Store.chronicle]
  cases action with
  | openAt path options =>
    simp only [Store.perform]
    cases (s.openAt path options).2 with
    | ok opened => exact h.hold fun _ => rfl
    | error e => exact h
  | openMemory options =>
    simp only [Store.perform]
    cases (s.openInMemory options).2 with
    | ok opened => exact h.hold fun _ => rfl
    | error e => exact h
  | close other => exact h.hold fun heq => absurd heq hleaves
  | discard other => exact h.hold fun heq => absurd heq hleaves
  | put other key value sync =>
    simp only [Store.perform]
    cases (s.put other key value sync).2 with
    | ok _ => exact h.change _
    | error e => exact h
  | putOption other key value sync =>
    simp only [Store.perform]
    cases (s.putOption other key value sync).2 with
    | ok _ => cases value <;> exact h.change _
    | error e => cases value <;> exact h
  | delete other key sync =>
    simp only [Store.perform]
    cases (s.delete other key sync).2 with
    | ok _ => exact h.change _
    | error e => exact h
  | write other batch sync =>
    simp only [Store.perform]
    cases (s.write other batch sync).2 with
    | ok _ => exact h.change _
    | error e => exact h
  | get other snapshot key => exact h
  | property other name => exact h
  | snapshot other =>
    simp only [Store.perform]
    cases (s.snapshot other).2 with
    | ok taken => exact h.see_snapshot taken _
    | error e => exact h
  | releaseSnapshot other snapshot => exact h.see_snapshot snapshot none
  | dropSnapshot snapshot => exact h.see_snapshot snapshot none
  | iterate other snapshot =>
    simp only [Store.perform]
    cases hmade : (s.iterate other snapshot).2 with
    | ok another =>
      -- A new iterator is another one, for the chronicle has a view of this one already.
      have hne : another ≠ iterator := by
        rintro rfl
        exact absurd (h.view.symm.trans (htells.iterate_spec hmade).1) (by simp)
      exact h.see_iterator hne _ _
    | error e => exact h
  | move another mv =>
    simp only [note, Action.steer?]
    split
    · rename_i heq
      rw [heq]
      exact h.move mv
    · rename_i hne
      refine h.congr rfl (fun hsome => hsome) ?_
      rw [cursors_place, if_neg (Ne.symm hne)]
  | dropIterator another => exact h.see_iterator hleaves none none
  | destroy path => exact h
  | repair path => exact h
  | listen filter => exact h
  | sway verdicts => exact h
  | report event => exact h

/-- A run moves the position by the moves of it that are sent to the iterator. -/
theorem run (h : c.Positioned id iterator m position) (htells : c.Tells s.volume s.roster)
    {actions : List Action} (hleaves : ∀ action ∈ actions, action.Leaves id iterator) :
    (chronicleAll (s, c) actions).2.Positioned id iterator m
      (position.moveAll m.entries (actions.filterMap (Action.steer? iterator))) := by
  induction actions generalizing s c position with
  | nil => exact h
  | cons action rest ih =>
    have hfirst := h.perform htells (hleaves action List.mem_cons_self)
    have hrest := ih hfirst (htells.perform action) fun next hmem =>
      hleaves next (List.mem_cons_of_mem _ hmem)
    rw [← Position.moveAll_append] at hrest
    rw [List.filterMap_cons]
    cases hsteer : action.steer? iterator with
    | none =>
      rw [hsteer] at hrest
      exact hrest
    | some mv =>
      rw [hsteer] at hrest
      exact hrest

end Positioned

end Chronicle

namespace Store

open Chronicle

variable {c : Chronicle} {s : Store} {id : SessionId} {iterator : IteratorId} {m : Keyspace}
  {position : Position}

/-- An iterator is where a position in a map is, and goes where that one goes. -/
structure Navigates (s : Store) (iterator : IteratorId) (m : Keyspace) (position : Position) :
    Prop where
  /-- The position is that of an entry, or of none. -/
  fits : position.Fits m.entries
  /-- The iterator shows the entry of its position. -/
  entry : s.entry? iterator = position.shows m.entries
  valid_iff : (Option.isSome <| s.entry? iterator) = true ↔ ∃ i, position = .on i
  status : s.status iterator = .ok ()
  /-- Every move succeeds and takes the iterator where it takes the position. -/
  move : ∀ mv, (s.move iterator mv).2 = .ok () ∧
    Store.entry? (s.move iterator mv).1 iterator = (position.move m.entries mv).shows m.entries
  /-- A scan from the first entry on shows every entry once, in ascending order. -/
  forward : ∀ k, Store.entry?
    (s.run (.move iterator .first :: List.replicate k (.move iterator .next))) iterator =
      m.entries[k]?
  /-- A scan from the last entry back shows them in reverse. -/
  backward : ∀ k, Store.entry?
    (s.run (.move iterator .last :: List.replicate k (.move iterator .prev))) iterator =
      m.entries.reverse[k]?

theorem entry?_of_positioned (h : c.Positioned id iterator m position)
    (htells : c.Tells s.volume s.roster) : s.entry? iterator = position.shows m.entries := by
  obtain ⟨latest, hlatest⟩ := Option.isSome_iff_exists.mp h.open_
  obtain ⟨cursor, hcursor, hentry⟩ := htells.entry?_eq hlatest h.view
  obtain rfl := Option.some.inj (hcursor.symm.trans h.cursor)
  rw [hentry, Position.shows_cursor]

theorem status_of_positioned (h : c.Positioned id iterator m position)
    (htells : c.Tells s.volume s.roster) : s.status iterator = .ok () := by
  obtain ⟨latest, hlatest⟩ := Option.isSome_iff_exists.mp h.open_
  have howner : (s.iterators.get? iterator).map Iterator.owner = some id := by
    refine (htells.owner (.iterator iterator)).trans ?_
    rw [h.view]
    rfl
  have hcursor : (s.iterators.get? iterator).map Iterator.cursor = some (position.cursor m) :=
    (htells.cursor iterator).trans h.cursor
  obtain ⟨row, hrow, rfl⟩ := Option.map_eq_some_iff.mp howner
  rw [hrow] at hcursor
  have hopen : s.isOpen row.owner = true := htells.isOpen_of_committed hlatest
  rw [Store.status, hrow]
  simp only [Option.some.inj hcursor, hopen, Position.status_cursor]

/-- A run of moves takes an iterator where it takes the position. -/
theorem positioned_run_moves (h : c.Positioned id iterator m position)
    (htells : c.Tells s.volume s.roster) (moves : List Move) :
    ∃ c' : Chronicle, c'.Positioned id iterator m (position.moveAll m.entries moves) ∧
      c'.Tells (s.run (moves.map (.move iterator))).volume
        (s.run (moves.map (.move iterator))).roster := by
  have hleaves : ∀ action ∈ moves.map (Action.move iterator), action.Leaves id iterator := by
    intro action hmem
    obtain ⟨mv, _, rfl⟩ := List.mem_map.mp hmem
    trivial
  have hmoves : (moves.map (Action.move iterator)).filterMap (Action.steer? iterator) = moves := by
    rw [List.filterMap_map]
    refine (List.filterMap_congr fun mv _ => ?_).trans List.filterMap_some
    exact if_pos rfl
  have hrun := h.run htells hleaves
  have htold := htells.run (moves.map (Action.move iterator))
  rw [chronicleAll_fst] at htold
  rw [hmoves] at hrun
  exact ⟨_, hrun, htold⟩

theorem entry?_run_moves (h : c.Positioned id iterator m position)
    (htells : c.Tells s.volume s.roster) (moves : List Move) :
    Store.entry? (s.run (moves.map (.move iterator))) iterator =
      (position.moveAll m.entries moves).shows m.entries := by
  obtain ⟨c', hpositioned, htold⟩ := positioned_run_moves h htells moves
  exact entry?_of_positioned hpositioned htold

theorem navigates (h : c.Positioned id iterator m position)
    (htells : c.Tells s.volume s.roster) : s.Navigates iterator m position where
  fits := h.fits
  entry := entry?_of_positioned h htells
  valid_iff := by
    rw [entry?_of_positioned h htells]
    exact Position.isSome_shows h.fits
  status := status_of_positioned h htells
  move mv := by
    obtain ⟨houtcome, _⟩ := htells.move_eq h.cursor mv
    rw [h.reader, Position.move_cursor h.fits] at houtcome
    exact ⟨houtcome, entry?_run_moves h htells [mv]⟩
  forward k := by
    have hrun := entry?_run_moves h htells (.first :: List.replicate k .next)
    rw [List.map_cons, List.map_replicate] at hrun
    rw [hrun, Position.shows_forward]
  backward k := by
    have hrun := entry?_run_moves h htells (.last :: List.replicate k .prev)
    rw [List.map_cons, List.map_replicate] at hrun
    rw [hrun, Position.shows_backward]

/-- The chronicle of a run knows where an iterator is that has been made at any moment. -/
theorem positioned_of_made {v : Volume} (h : v.WellFormed) (before after : List Action)
    {snapshot : Option SnapshotId}
    (hview : (((ofVolume v).run before).viewAt id snapshot).2 = .ok m)
    (hmade : (((ofVolume v).run before).iterate id snapshot).2 = .ok iterator)
    (hafter : ∀ action ∈ after, action.Leaves id iterator) :
    ∃ c : Chronicle, c.Positioned id iterator m
        (Position.unpositioned.moveAll m.entries (after.filterMap (Action.steer? iterator))) ∧
      c.Tells ((((ofVolume v).run before).iterate id snapshot).1.run after).volume
        ((((ofVolume v).run before).iterate id snapshot).1.run after).roster := by
  have htells := Tells.run (s := ofVolume v) (tells_empty h) before
  rw [chronicleAll_fst] at htells
  obtain ⟨_, p, hp, hlatest, _, htold⟩ := htells.iterate_spec hmade
  obtain rfl := Except.ok.inj (hview.symm.trans hp)
  have hmoved := Positioned.made (Option.isSome_iff_exists.mpr hlatest) iterator m
  have htold' := htold.run after
  rw [chronicleAll_fst] at htold'
  exact ⟨_, hmoved.run htold hafter, htold'⟩

/-- An iterator that has been made at any moment of any run is, as long as it and its session
are there, where the moves sent to it take a position in the map it was made over. -/
theorem cursor_simulates_position {v : Volume} (h : v.WellFormed) (before after : List Action)
    {snapshot : Option SnapshotId}
    (hview : (((ofVolume v).run before).viewAt id snapshot).2 = .ok m)
    (hmade : (((ofVolume v).run before).iterate id snapshot).2 = .ok iterator)
    (hafter : ∀ action ∈ after, action.Leaves id iterator) :
    ((((ofVolume v).run before).iterate id snapshot).1.run after).Navigates iterator m
      (Position.unpositioned.moveAll m.entries (after.filterMap (Action.steer? iterator))) := by
  obtain ⟨c, hpositioned, htells⟩ := positioned_of_made h before after hview hmade hafter
  exact navigates hpositioned htells

/-- The theorem on a map with two keys: the iterator goes to the end, a key is put there
that the iterator does not see, and the iterator goes back and on again. -/
theorem cursor_simulates_position_in_memory :
    Volume.empty.WellFormed ∧
      ((((ofVolume .empty).run
        [.openMemory {}, .put ⟨0⟩ [1] [2] true, .put ⟨0⟩ [1, 0] [3] true]).iterate ⟨0⟩ none).1.run
          [.move ⟨0⟩ .last, .put ⟨0⟩ [2] [4] true, .move ⟨0⟩ .prev, .move ⟨0⟩ .next]).Navigates ⟨0⟩
        ((Keyspace.empty.insert [1] [2]).insert [1, 0] [3])
        (Position.unpositioned.moveAll ((Keyspace.empty.insert [1] [2]).insert [1, 0] [3]).entries
          [.last, .prev, .next]) :=
  ⟨Volume.wellFormed_empty,
    cursor_simulates_position Volume.wellFormed_empty
      [.openMemory {}, .put ⟨0⟩ [1] [2] true, .put ⟨0⟩ [1, 0] [3] true]
      [.move ⟨0⟩ .last, .put ⟨0⟩ [2] [4] true, .move ⟨0⟩ .prev, .move ⟨0⟩ .next]
      rfl rfl (by simp [Action.Leaves])⟩

end Store

end OrderedStore
