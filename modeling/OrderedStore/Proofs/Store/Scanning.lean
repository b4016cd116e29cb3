import OrderedStore.Proofs.Scan
import OrderedStore.Proofs.Store.Closing
import OrderedStore.Proofs.Store.Incident

/-!
# What a scan of an iterator yields

`entries_scanned` says what a scan gives that begins wherever an iterator stands, after any run of
incidents and whatever reads fail during the scan: the transcript of the standing of the iterator,
one item a turn, and then nothing for ever.  A scan that is given up leaves the iterator on the
entry it gave last, and one that meets no failure leaves it off the entries.  Once the session has
been closed, a scan gives that and nothing else.

The reads of the scan may fail in any pattern (`facing`).  A scan of the store as it is meets the
trouble of the engine, which does not change before the first failure, and after that the scan asks
for nothing any more (`tracks_walker`).
-/

set_option autoImplicit false

namespace OrderedStore.Store

open Roster

variable {s : Store} {id : SessionId} {iterator : IteratorId} {view : Outlook}
  {standing : Standing} {pattern : Nat → Option Error}

/-- A store as the thing that is scanned, by one of its iterators, with the number of moves made so
far.  The pattern tells of each move what is in the way of its read. -/
def facing (iterator : IteratorId) (pattern : Nat → Option Error) : Walker (Store × Nat) where
  move m st := (((st.1.moveUnder (pattern st.2) iterator m).1, st.2 + 1),
    (st.1.moveUnder (pattern st.2) iterator m).2)
  entry? st := Store.entry? st.1 iterator
  status st := st.1.status iterator
  isUnpositioned st := st.1.cursor iterator = .unpositioned

/-! ## Scans of standings -/

/-- An iterator is scanned as its standing is, whatever reads fail. -/
theorem tracks_facing (id : SessionId) (iterator : IteratorId) (view : Outlook)
    (pattern : Nat → Option Error) :
    (facing iterator pattern).Tracks
      (Standing.walker view.seen.entries fun k => view.obstacle (pattern k))
      (fun st t => st.1.roster.Stands id iterator view t.1 ∧ st.2 = t.2)
      (fun st t => st.1.roster.Stands id iterator view t.1 ∧ st.2 = t.2) where
  outcome := by
    rintro ⟨s, k⟩ ⟨standing, _⟩ m ⟨hstands, rfl⟩
    exact (stands_moveUnder hstands _ m).2
  moved := by
    rintro ⟨s, k⟩ ⟨standing, _⟩ m ⟨hstands, rfl⟩
    exact ⟨(stands_moveUnder hstands _ m).1, rfl⟩
  kept := by
    rintro ⟨s, k⟩ ⟨standing, _⟩ m ⟨hstands, rfl⟩ _
    exact ⟨(stands_moveUnder hstands _ m).1, rfl⟩
  entry? := by
    rintro ⟨s, k⟩ ⟨standing, _⟩ ⟨hstands, _⟩
    exact entry?_of_stands hstands
  status := by
    rintro ⟨s, k⟩ ⟨standing, _⟩ ⟨hstands, _⟩
    exact status_of_stands hstands
  isUnpositioned := by
    rintro ⟨s, k⟩ ⟨standing, _⟩ ⟨hstands, _⟩
    refine decide_eq_decide.mpr ?_
    rw [cursor_of_stands hstands, Standing.cursor_eq_unpositioned_iff hstands.fits]
  weaken h := h

/-- An iterator is scanned as its standing is with the trouble that the session has. -/
theorem tracks_walker (s₀ : Store) (id : SessionId) (iterator : IteratorId) (view : Outlook) :
    (walker iterator).Tracks
      (Standing.walker view.seen.entries fun _ => view.obstacle (s₀.trouble id))
      (fun s t => s.roster.Stands id iterator view t.1 ∧ s.trouble id = s₀.trouble id)
      (fun s t => s.roster.Stands id iterator view t.1) := by
  have hmove : ∀ {s : Store} {standing : Standing} (m : Move),
      s.roster.Stands id iterator view standing → s.trouble id = s₀.trouble id →
      Roster.Stands (s.move iterator m).1.roster id iterator view
          (standing.move view.seen.entries (view.obstacle (s₀.trouble id)) m).1 ∧
        (s.move iterator m).2 =
          (standing.move view.seen.entries (view.obstacle (s₀.trouble id)) m).2 := by
    intro s standing m hstands htrouble
    have hmet : s.troubleOf iterator = s₀.trouble id := by
      rw [troubleOf, owner_of_stands hstands]
      exact htrouble
    rw [move_eq_moveUnder, hmet]
    exact stands_moveUnder hstands _ m
  constructor
  case outcome => exact fun m h => (hmove m h.1 h.2).2
  case moved => exact fun m h => (hmove m h.1 h.2).1
  case kept =>
    intro s t m h hok
    obtain ⟨hstands, houtcome⟩ := hmove m h.1 h.2
    exact ⟨hstands, (trouble_move h.1 (houtcome.trans hok)).trans h.2⟩
  case entry? => exact fun h => entry?_of_stands h.1
  case status => exact fun h => status_of_stands h.1
  case isUnpositioned =>
    intro s t h
    refine decide_eq_decide.mpr ?_
    rw [cursor_of_stands h.1, Standing.cursor_eq_unpositioned_iff h.1.fits]
  case weaken => exact fun h => h.1

/-- An iterator that shows an entry has been positioned, and has not failed. -/
theorem settled_of_entry? {entry : Entry} (h : s.entry? iterator = some entry) :
    s.cursor iterator ≠ .unpositioned ∧ s.status iterator = .ok () := by
  obtain ⟨row, hrow, hshown⟩ := Option.bind_eq_some_iff.mp h
  rw [Store.cursor, Store.status, hrow]
  cases hcursor : row.cursor with
  | valid other =>
    cases hopen : s.isOpen row.owner with
    | true => exact ⟨by simp [hcursor], by simp [hcursor, hopen, Cursor.status]⟩
    | false =>
      rw [hopen, Cursor.entry?_of_closed] at hshown
      cases hshown
  | unpositioned | exhausted | degraded e =>
    rw [hcursor] at hshown
    cases hshown

theorem settled_walker (iterator : IteratorId) : (walker iterator).Settled := by
  intro s entry h
  obtain ⟨hpositioned, hstatus⟩ := settled_of_entry? h
  exact ⟨decide_eq_false hpositioned, hstatus⟩

theorem settled_facing (iterator : IteratorId) (pattern : Nat → Option Error) :
    (facing iterator pattern).Settled := by
  intro st entry h
  obtain ⟨hpositioned, hstatus⟩ := settled_of_entry? h
  exact ⟨decide_eq_false hpositioned, hstatus⟩

/-- Without a view there is nothing left that could fail. -/
theorem transcript_obstacle (h : s.roster.Stands id iterator view standing)
    (pattern : Nat → Option Error) :
    standing.transcript view.seen.entries (fun k => view.obstacle (pattern k)) =
      standing.transcript view.seen.entries pattern := by
  cases view with
  | ok m => rfl
  | error e =>
    obtain rfl := h.stuck e rfl
    rfl

/-! ## Scans of open sessions -/

/-- What scans give that begin where an iterator stands. -/
structure Scanned (s : Store) (id : SessionId) (iterator : IteratorId) (view : Outlook)
    (standing : Standing) : Prop where
  stands : s.roster.Stands id iterator view standing
  /-- Whatever reads fail during the scan, it gives what the standing tells. -/
  facing : ∀ pattern : Nat → Option Error, (facing iterator pattern).Scans (s, 0)
    (standing.transcript view.seen.entries pattern) fun st => st.1.cursor iterator = .exhausted
  /-- So it does if the engine fails in its own way. -/
  scans : (walker iterator).Scans s
    (standing.transcript view.seen.entries fun _ => s.trouble id)
    fun s => s.cursor iterator = .exhausted
  items : (s.items iterator).2 =
    standing.transcript view.seen.entries fun _ => s.trouble id
  /-- If no read fails, that is every entry from there on. -/
  calm : ∀ position, standing = .sound position →
    standing.transcript view.seen.entries (fun _ => none) =
      (standing.rest view.seen.entries).map .ok
  /-- If one does, it is the entries up to the first failure, and that one. -/
  first : ∀ position pattern k e, standing = .sound position → position ≠ .off →
    standing.shown + k ≤ (standing.rest view.seen.entries).length → pattern k = some e →
      (∀ j, j < k → pattern j = none) →
    standing.transcript view.seen.entries pattern =
      ((standing.rest view.seen.entries).take (standing.shown + k)).map .ok ++ [.error e]

theorem cursor_of_stands_off {standing : Standing}
    (h : s.roster.Stands id iterator view standing) (hoff : standing = .sound .off) :
    s.cursor iterator = .exhausted := by
  rw [cursor_of_stands h, hoff]
  rfl

theorem scanned_of_stands (h : s.roster.Stands id iterator view standing) :
    s.Scanned id iterator view standing := by
  have hscans : (walker iterator).Scans s
      (standing.transcript view.seen.entries fun _ => s.trouble id)
      fun s => s.cursor iterator = .exhausted := by
    obtain ⟨t, hdrains, hoff⟩ :=
      Standing.drains_transcript (fun _ => view.obstacle (s.trouble id)) h.fits
    rw [transcript_obstacle h fun _ => s.trouble id] at hdrains hoff
    obtain ⟨s', hdrained, hstands⟩ :=
      (tracks_walker s id iterator view).drains hdrains (fun _ => ⟨h, rfl⟩) h
    exact Walker.scans_of_drains (settled_walker iterator) hdrained fun hcalm =>
      cursor_of_stands_off hstands (hoff hcalm)
  refine ⟨h, fun pattern => ?_, hscans, ?_, ?_, ?_⟩
  · obtain ⟨t, hdrains, hoff⟩ :=
      Standing.drains_transcript (fun k => view.obstacle (pattern k)) h.fits
    rw [transcript_obstacle h] at hdrains hoff
    obtain ⟨st, hdrained, hstands, _⟩ :=
      (tracks_facing id iterator view pattern).drains (s := (s, 0)) hdrains
        (fun _ => ⟨h, rfl⟩) ⟨h, rfl⟩
    exact Walker.scans_of_drains (settled_facing iterator pattern) hdrained fun hcalm =>
      cursor_of_stands_off hstands (hoff hcalm)
  · refine Walker.items_of_scans hscans ?_
    rw [extent_of_stands h]
    exact Nat.le_succ_of_le (Standing.length_transcript_le _ _ standing)
  · rintro position rfl
    exact Standing.transcript_of_calm _ position fun _ => rfl
  · rintro position pattern k e rfl hne hk hfails hfirst
    exact Standing.transcript_of_first hne hk hfails hfirst

/-! ## Scans of closed sessions -/

/-- A seek of an iterator of a closed session fails, whatever the reads would give. -/
theorem moveUnder_of_closed (howner : s.roster.owner? (.iterator iterator) = some id)
    (hclosed : s.isOpen id = false) {m : Move} (hseeks : m.seeks = true)
    (trouble : Option Error) :
    (s.moveUnder trouble iterator m).2 = .error (.closed .database) := by
  obtain ⟨row, hrow, hid⟩ := Option.map_eq_some_iff.mp howner
  have hreader : s.readerUnder trouble row = none :=
    readerUnder_of_closed (hid ▸ hclosed) trouble
  have hasks : (row.cursor.query? m).isSome = true := by
    rw [Cursor.isSome_query?, hseeks, Bool.true_or]
  rw [(moveUnder_of_some hrow trouble m).2.2, hreader, Cursor.move_of_closed hasks]

theorem drains_of_refused {σ : Type} {w : Walker σ} {s : σ} {e : Error}
    (hfirst : (w.move .first s).2 = .error e) (hstatus : w.status s = .error e) :
    ∃ s', w.Drains .fresh s [.error e] s' := by
  refine ⟨(w.scanMove .fresh s).1, Walker.drains_of_error rfl (Prod.ext rfl ?_)⟩
  show Prod.snd (if false = true then _ else if w.isUnpositioned s = true then _ else _) = _
  rw [if_neg Bool.false_ne_true]
  split
  · exact hfirst
  · exact hstatus

/-- Wherever an iterator of a closed session stands, a scan finds that it is closed. -/
theorem scans_of_closed (hcoherent : s.roster.Coherent)
    (howner : s.roster.owner? (.iterator iterator) = some id)
    (hclosed : s.isOpen id = false) :
    (walker iterator).Scans s [.error (.closed .database)]
        (fun s => s.cursor iterator = .exhausted) ∧
      ∀ pattern, (facing iterator pattern).Scans (s, 0) [.error (.closed .database)]
        fun st => st.1.cursor iterator = .exhausted := by
  have hfirst := moveUnder_of_closed howner hclosed (m := .first) rfl
  have hstatus := (bereft_of_closed hcoherent hclosed).status iterator howner
  constructor
  · obtain ⟨_, hdrains⟩ := drains_of_refused (w := walker iterator) (s := s)
      ((congrArg Prod.snd (move_eq_moveUnder s iterator .first)).trans (hfirst _)) hstatus
    exact Walker.scans_of_drains (settled_walker iterator) hdrains fun hcalm =>
      absurd (List.mem_singleton.mpr rfl) (hcalm _)
  · intro pattern
    obtain ⟨_, hdrains⟩ := drains_of_refused (w := facing iterator pattern) (s := (s, 0))
      (hfirst _) hstatus
    exact Walker.scans_of_drains (settled_facing iterator pattern) hdrains fun hcalm =>
      absurd (List.mem_singleton.mpr rfl) (hcalm _)

/-! ## Scans in runs -/

/-- After every run in which any reads may have failed, an iterator of an open session stands
somewhere, and scans from there give what its standing tells.  Scans through an iterator of a closed
session give that it is closed. -/
theorem entries_scanned (v : Volume) (incidents : List Incident)
    (howner : ((ofVolume v).endure incidents).roster.owner? (.iterator iterator) = some id) :
    (((ofVolume v).endure incidents).isOpen id = true →
      ∃ view standing, ((ofVolume v).endure incidents).Scanned id iterator view standing) ∧
    (((ofVolume v).endure incidents).isOpen id = false →
      (walker iterator).Scans ((ofVolume v).endure incidents) [.error (.closed .database)]
          (fun s => s.cursor iterator = .exhausted) ∧
        ∀ pattern, (facing iterator pattern).Scans ((ofVolume v).endure incidents, 0)
          [.error (.closed .database)] fun st => st.1.cursor iterator = .exhausted) := by
  have hempty := coherent_ofVolume v
  refine ⟨fun hopen => ?_, scans_of_closed (coherent_endure hempty incidents) howner⟩
  obtain ⟨view, standing, h⟩ :=
    allStand_endure hempty (allStand_ofVolume v) incidents howner hopen
  exact ⟨view, standing, scanned_of_stands h⟩

/-- The theorem on an iterator that a read has failed and that then went to the first of two
entries: a scan whose first move fails gives that entry and the failure.  After the session has
been closed it gives that. -/
theorem entries_scanned_in_memory :
    ((ofVolume .empty).endure
        [.happen (.act (.openMemory {})), .happen (.act (.put ⟨0⟩ [1] [5] true)),
          .happen (.act (.put ⟨0⟩ [3] [6] true)), .happen (.act (.iterate ⟨0⟩ none)),
          .move ⟨0⟩ .last (some (.io "lost")), .move ⟨0⟩ .first none]).roster.owner?
        (.iterator ⟨0⟩) = some ⟨0⟩ ∧
      (∃ view standing, Scanned ((ofVolume .empty).endure
        [.happen (.act (.openMemory {})), .happen (.act (.put ⟨0⟩ [1] [5] true)),
          .happen (.act (.put ⟨0⟩ [3] [6] true)), .happen (.act (.iterate ⟨0⟩ none)),
          .move ⟨0⟩ .last (some (.io "lost")), .move ⟨0⟩ .first none]) ⟨0⟩ ⟨0⟩ view standing) ∧
      ((facing ⟨0⟩ fun _ => some (.io "lost")).polls 4 .fresh ((ofVolume .empty).endure
        [.happen (.act (.openMemory {})), .happen (.act (.put ⟨0⟩ [1] [5] true)),
          .happen (.act (.put ⟨0⟩ [3] [6] true)), .happen (.act (.iterate ⟨0⟩ none)),
          .move ⟨0⟩ .last (some (.io "lost")), .move ⟨0⟩ .first none], 0)).2 =
        [some (.ok ([1], [5])), some (.error (.io "lost")), none, none] ∧
      (walker ⟨0⟩).Scans ((ofVolume .empty).endure
        [.happen (.act (.openMemory {})), .happen (.act (.iterate ⟨0⟩ none)),
          .happen (.act (.close ⟨0⟩))]) [.error (.closed .database)]
        fun s => s.cursor ⟨0⟩ = .exhausted :=
  ⟨rfl, (entries_scanned .empty _ rfl).1 rfl, rfl, ((entries_scanned .empty _ rfl).2 rfl).1⟩

end OrderedStore.Store
