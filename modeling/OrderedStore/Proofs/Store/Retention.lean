import OrderedStore.Proofs.Store.Incident

/-!
# The error that an iterator keeps

`error_retained` follows an iterator from its making through any calls of it, each of which may
fail with any error, and whatever else happens to the store.  What the iterator keeps can be told
from the calls alone (`retained`): a call that fails sets the error, a seek that succeeds clears it,
and a step that succeeds leaves it alone.  `Retains` says what an iterator does that keeps an error
or none.

An iterator comes about even if its view could not be opened.  It keeps the failure then, and every
seek gives it again.
-/

set_option autoImplicit false

namespace OrderedStore

/-- The error that an iterator keeps after some calls, if its view came about as given. -/
def retained (view : Outlook) (calls : List Positioning) : Option Error :=
  calls.foldl Positioning.retain (view.obstacle none)

theorem Outlook.error?_start (view : Outlook) : view.start.error? = view.obstacle none := by
  cases view <;> rfl

namespace Store

open Roster

variable {s s' : Store} {id : SessionId} {iterator : IteratorId} {view : Outlook}
  {standing : Standing} {e : Error}

/-- An iterator of a session comes about, over a view or over the failure to open one. -/
inductive Makes (s : Store) (id : SessionId) : Outlook → Store → IteratorId → Prop
  | iterate {snapshot : Option SnapshotId} {iterator : IteratorId}
    (made : (s.iterate id snapshot).2 = .ok iterator) :
    Makes s id (s.viewAt id snapshot).2 (s.iterate id snapshot).1 iterator
  | unavailable {e : Error} {iterator : IteratorId}
    (made : (s.unavailable id e).2 = .iterator (.ok iterator)) :
    Makes s id (.error e) (s.unavailable id e).1 iterator

/-- What an iterator does that keeps an error, or none. -/
structure Retains (s : Store) (id : SessionId) (iterator : IteratorId) (view : Outlook)
    (kept : Option Error) : Prop where
  status : s.status iterator = kept.elim (.ok ()) .error
  degraded : ∀ e, s.cursor iterator = .degraded e ↔ kept = some e
  entry : kept.isSome = true → s.entry? iterator = none
  /-- Steps succeed and change nothing. -/
  step : kept.isSome = true → ∀ trouble m, m.seeks = false →
    s.moveUnder trouble iterator m = (s, .ok ())
  /-- A seek fails only with what is in its way. -/
  seek : ∀ trouble m, m.seeks = true →
    (s.moveUnder trouble iterator m).2 = (view.obstacle trouble).elim (.ok ()) .error
  /-- The moves of the store are among these. -/
  move : ∀ m, s.move iterator m = s.moveUnder (s.trouble id) iterator m

/-- What an iterator does that has no view: it keeps the reason, and every seek gives it. -/
structure Stuck (e : Error) (kept : Option Error) (calls : List Positioning) : Prop where
  kept : kept = some e
  calls : ∀ call ∈ calls, call.2 = if call.1.seeks then .error e else .ok ()

/-! ## Making -/

theorem checkRead_of_iterate {snapshot : Option SnapshotId}
    (h : (s.iterate id snapshot).2 = .ok iterator) : s.checkRead id snapshot = .ok () := by
  cases hread : s.checkRead id snapshot with
  | ok _ => rfl
  | error e =>
    rw [iterate_of_error hread] at h
    cases h

theorem isOpen_of_unavailable {e : Error}
    (h : (s.unavailable id e).2 = .iterator (.ok iterator)) : s.isOpen id = true := by
  unfold unavailable at h
  split at h
  · assumption
  · cases h

theorem unavailable_of_open (hopen : s.isOpen id = true) (e : Error) :
    s.unavailable id e = ((s.attach id (.error e)).1, .iterator (.ok (s.attach id (.error e)).2)) :=
  if_pos hopen

/-- A new iterator stands at the start of what came of its view. -/
theorem stands_of_makes (hcoherent : s.roster.Coherent) (h : s.Makes id view s' iterator) :
    s'.roster.Coherent ∧ s'.roster.Stands id iterator view view.start := by
  cases h with
  | @iterate snapshot _ made =>
    have hread := checkRead_of_iterate made
    refine ⟨coherent_iterate hcoherent id snapshot, ?_⟩
    obtain ⟨hroster, _, hfresh⟩ := iterate_of_ok hread
    obtain rfl := Except.ok.inj (made.symm.trans hfresh)
    rw [hroster]
    refine (coherent_viewAt hcoherent id snapshot).stands_addIterator ?_ _
    rw [isOpen_viewAt]
    exact isOpen_of_checkRead hread
  | @unavailable e _ made =>
    have hopen := isOpen_of_unavailable made
    refine ⟨coherent_happen hcoherent (.unavailable id e), ?_⟩
    obtain ⟨hroster, _, hfresh⟩ := attach_spec s id (.error e)
    rw [unavailable_of_open hopen] at made ⊢
    obtain rfl := Except.ok.inj (Answer.iterator.inj made)
    rw [hroster, hfresh]
    exact hcoherent.stands_addIterator hopen _

/-- Whatever came of the view, the iterator comes about. -/
theorem makes_of_checkRead {snapshot : Option SnapshotId}
    (h : s.checkRead id snapshot = .ok ()) :
    ∃ iterator, s.Makes id (s.viewAt id snapshot).2 (s.iterate id snapshot).1 iterator :=
  ⟨_, .iterate (iterate_of_ok h).2.2⟩

theorem makes_of_open (hopen : s.isOpen id = true) (e : Error) :
    ∃ s' iterator, s.Makes id (.error e) s' iterator :=
  ⟨_, _, .unavailable (congrArg Prod.snd (unavailable_of_open hopen e))⟩

/-! ## Keeping -/

theorem retains_of_stands (hcoherent : s.roster.Coherent)
    (h : s.roster.Stands id iterator view standing) :
    s.Retains id iterator view standing.error? where
  status := (status_of_stands h).trans standing.status_eq_error?
  degraded e := by rw [cursor_of_stands h, Standing.cursor_eq_degraded_iff h.fits]
  entry hkept := by
    obtain ⟨e, he⟩ := Option.isSome_iff_exists.mp hkept
    rw [entry?_of_stands h, Standing.shows_of_error? he]
  step hkept trouble m hstep := by
    obtain ⟨e, he⟩ := Option.isSome_iff_exists.mp hkept
    obtain ⟨row, hrow, _, _, hcursor⟩ := h.row
    refine moveUnder_of_idle hcoherent hrow ?_ trouble
    have hasks := Standing.isSome_query?_cursor h.fits m
    rw [Standing.asks_of_error? he, hstep, Option.isSome_eq_false_iff,
      Option.isNone_iff_eq_none] at hasks
    rw [hcursor, hasks]
  seek trouble m hseeks := by
    have hasks := standing.asks_of_seeks hseeks
    rw [(stands_moveUnder h trouble m).2]
    cases view.obstacle trouble with
    | none => rw [Standing.move_of_free hasks]; rfl
    | some e => rw [Standing.move_of_obstacle hasks]; rfl
  move m := by
    rw [move_eq_moveUnder, troubleOf, owner_of_stands h]
    rfl

/-- Without a view, an iterator does not change and every seek of it gives the reason. -/
theorem calls_of_stuck (hcoherent : s.roster.Coherent)
    (h : s.roster.Stands id iterator (.error e) standing) {incidents : List Incident}
    (hdrop : .drop iterator ∉ incidents) (hopen : (s.endure incidents).isOpen id = true) :
    ∀ call ∈ calls iterator s incidents, call.2 = if call.1.seeks then .error e else .ok () := by
  induction incidents generalizing s standing with
  | nil => exact fun _ hmem => absurd hmem List.not_mem_nil
  | cons incident rest ih =>
    obtain ⟨hfirst, hrest⟩ := List.ne_and_not_mem_of_not_mem_cons hdrop
    have hcoherent' := coherent_incur hcoherent incident
    obtain ⟨howner, _⟩ := stays_incur hcoherent (owner_of_stands h) (Ne.symm hfirst)
    have hopen' := (stays_endure hcoherent' howner hrest).2 hopen
    obtain ⟨standing', hstands, _⟩ := stands_incur hcoherent h (Ne.symm hfirst) hopen'
    intro call hmem
    rcases List.mem_append.mp hmem with hmem | hmem
    · obtain ⟨⟨m, trouble⟩, _, rfl⟩ := Option.map_eq_some_iff.mp (Option.mem_toList.mp hmem)
      obtain rfl := h.stuck e rfl
      show (s.moveUnder trouble iterator m).2 = _
      rw [(stands_moveUnder h trouble m).2]
      show Prod.snd (if m.seeks then _ else _) = _
      split <;> rfl
    · exact ih hcoherent' hstands hrest hopen call hmem

/-- After any run, an iterator comes about whatever came of its view, and keeps from then on the
error that the calls of it tell of, for as long as it and its session are there.  Without a view it
keeps the reason for that. -/
theorem error_retained (v : Volume) (before : List Incident) (id : SessionId) :
    (∀ snapshot, ((ofVolume v).endure before).checkRead id snapshot = .ok () →
      ∃ iterator, ((ofVolume v).endure before).Makes id
        (((ofVolume v).endure before).viewAt id snapshot).2
        (((ofVolume v).endure before).iterate id snapshot).1 iterator) ∧
    (((ofVolume v).endure before).isOpen id = true → ∀ e,
      ∃ s iterator, ((ofVolume v).endure before).Makes id (.error e) s iterator) ∧
    ∀ (view : Outlook) (s : Store) (iterator : IteratorId),
      ((ofVolume v).endure before).Makes id view s iterator →
      ∀ after, .drop iterator ∉ after → (s.endure after).isOpen id = true →
        (s.endure after).Retains id iterator view (retained view (calls iterator s after)) ∧
        ∀ e, view = .error e →
          Stuck e (retained view (calls iterator s after)) (calls iterator s after) := by
  have hcoherent := coherent_endure (coherent_ofVolume v) before
  refine ⟨fun snapshot hread => makes_of_checkRead hread, fun hopen e => makes_of_open hopen e,
    fun view s iterator hmakes after hdrop hopen => ?_⟩
  obtain ⟨hcoherent', hstands⟩ := stands_of_makes hcoherent hmakes
  obtain ⟨standing, hstands', herror⟩ := stands_endure hcoherent' hstands hdrop hopen
  rw [view.error?_start] at herror
  have hretains := retains_of_stands (coherent_endure hcoherent' after) hstands'
  rw [herror] at hretains
  refine ⟨hretains, ?_⟩
  rintro e rfl
  refine ⟨?_, calls_of_stuck hcoherent' hstands hdrop hopen⟩
  rw [hstands'.stuck e rfl] at herror
  exact herror.symm

/-- The theorem on an iterator whose reads fail twice, with a step in between, and then succeed, and
on one that comes about without a view and is sought with nothing else in the way. -/
theorem error_retained_in_memory :
    Retains ((((ofVolume .empty).endure [.happen (.act (.openMemory {})),
        .happen (.act (.put ⟨0⟩ [1] [2] true))]).iterate ⟨0⟩ none).1.endure
          [.move ⟨0⟩ .last (some (.io "lost")), .move ⟨0⟩ .next none,
            .move ⟨0⟩ (.seek [1]) (some (.corruption "bad"))])
        ⟨0⟩ ⟨0⟩ (.ok (Keyspace.empty.insert [1] [2])) (some (.corruption "bad")) ∧
      Retains ((((ofVolume .empty).endure [.happen (.act (.openMemory {})),
        .happen (.act (.put ⟨0⟩ [1] [2] true))]).iterate ⟨0⟩ none).1.endure
          [.move ⟨0⟩ .last (some (.io "lost")), .move ⟨0⟩ .first none])
        ⟨0⟩ ⟨0⟩ (.ok (Keyspace.empty.insert [1] [2])) none ∧
      Stuck (.io "disk") (some (.io "disk"))
        (calls ⟨0⟩ (((ofVolume .empty).endure [.happen (.act (.openMemory {}))]).unavailable ⟨0⟩
          (.io "disk")).1 [.move ⟨0⟩ .first none, .move ⟨0⟩ .next none]) := by
  obtain ⟨_, _, hkeeps⟩ := error_retained .empty [.happen (.act (.openMemory {})),
    .happen (.act (.put ⟨0⟩ [1] [2] true))] ⟨0⟩
  obtain ⟨_, _, hstuck⟩ := error_retained .empty [.happen (.act (.openMemory {}))] ⟨0⟩
  exact ⟨(hkeeps _ _ ⟨0⟩ (@Makes.iterate _ ⟨0⟩ none _ rfl) _ (by simp [Incident.drop]) rfl).1,
    (hkeeps _ _ ⟨0⟩ (@Makes.iterate _ ⟨0⟩ none _ rfl) _ (by simp [Incident.drop]) rfl).1,
    (hstuck _ _ ⟨0⟩ (.unavailable rfl) [.move ⟨0⟩ .first none, .move ⟨0⟩ .next none]
      (by simp [Incident.drop]) rfl).2 _ rfl⟩

end Store

end OrderedStore
