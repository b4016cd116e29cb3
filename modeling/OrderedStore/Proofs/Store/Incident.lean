import OrderedStore.Proofs.Store.Stance

/-!
# Runs in which any read may fail

The engine of a store fails in few ways, and once it has failed it goes on failing.  Here a move of
an iterator can also meet any trouble at all: `moveUnder` is a move whose reads fail with a given
error or with none, and `move` is the case in which the trouble is the engine's own
(`move_eq_moveUnder`).

An incident is whatever happens to a store, or such a move; runs of incidents go through every
pattern of failures.  Every iterator of an open session stands somewhere after every run
(`allStand_endure`), and keeps the error that the calls of it tell of (`stands_endure`).
-/

set_option autoImplicit false

namespace OrderedStore.Store

open Roster

variable {s : Store} {id : SessionId} {iterator : IteratorId} {view : Outlook}
  {standing : Standing} {row : Iterator} {m : Move}

/-! ## Trouble -/

/-- What is in the way of the reads of a session at the moment. -/
def trouble (s : Store) (id : SessionId) : Option Error :=
  (s.roster.engine? id).bind fun engine =>
    match engine.access s.volume with
    | .ok _ => none
    | .error e => some e

/-- What is in the way of the reads of an iterator at the moment. -/
def troubleOf (s : Store) (iterator : IteratorId) : Option Error :=
  (s.roster.owner? (.iterator iterator)).bind s.trouble

/-- How an iterator reads if the trouble with its reads is as given; not at all once its session
has been closed. -/
def readerUnder (s : Store) (trouble : Option Error) (row : Iterator) : Option Reader :=
  (s.sessions.get? row.owner).map fun _ => (s.roster.outlook row).read trouble

/-- Moves an iterator, if the trouble with its reads is as given. -/
def moveUnder (s : Store) (trouble : Option Error) (iterator : IteratorId) (m : Move) :
    Store × Except Error Unit :=
  match s.iterators.get? iterator with
  | none => (s, .error (.closed .iterator))
  | some row =>
    let (cursor, outcome) := row.cursor.move (s.readerUnder trouble row) m
    let touched := if s.reaches row m then s.touch row.owner else s
    let moved := { touched with
      iterators := touched.iterators.modify iterator fun row => { row with cursor := cursor } }
    (moved.warnDegraded row outcome, outcome)

theorem reader_eq_readerUnder (s : Store) (row : Iterator) :
    s.reader row = s.readerUnder (s.trouble row.owner) row := by
  unfold reader readerUnder
  cases hsession : s.sessions.get? row.owner with
  | none => rfl
  | some session =>
    have htrouble : s.trouble row.owner = match session.engine.access s.volume with
        | .ok _ => none
        | .error e => some e := by
      rw [Store.trouble, Roster.engine?, show s.roster.sessions.get? row.owner = some session
        from hsession]
      rfl
    refine congrArg some (funext fun query => ?_)
    rw [htrouble]
    cases hview : row.view with
    | error e =>
      have houtlook : s.roster.outlook row = .error e := by
        rw [outlook, hview]
        rfl
      simp only [answer, hview, houtlook]
      rfl
    | ok lease =>
      have houtlook : s.roster.outlook row = s.pinned lease := by
        rw [outlook, hview]
        rfl
      rw [houtlook]
      cases hpinned : s.pinned lease with
      | error e =>
        simp only [answer, hview, hpinned]
        rfl
      | ok view =>
        simp only [answer, hview, hpinned]
        cases session.engine.access s.volume <;> rfl

theorem readerUnder_of_closed (h : s.isOpen row.owner = false) (trouble : Option Error) :
    s.readerUnder trouble row = none := by
  rw [Store.isOpen, Option.isSome_eq_false_iff, Option.isNone_iff_eq_none] at h
  rw [readerUnder, h]
  rfl

/-- A move of a store meets the trouble that there is. -/
theorem move_eq_moveUnder (s : Store) (iterator : IteratorId) (m : Move) :
    s.move iterator m = s.moveUnder (s.troubleOf iterator) iterator m := by
  unfold move moveUnder
  cases hrow : s.iterators.get? iterator with
  | none => rfl
  | some row =>
    have htrouble : s.troubleOf iterator = s.trouble row.owner := by
      rw [troubleOf, owner?, show s.roster.iterators.get? iterator = some row from hrow]
      rfl
    simp only [reader_eq_readerUnder, htrouble]

theorem moveUnder_of_none (h : s.iterators.get? iterator = none) (trouble : Option Error)
    (m : Move) : s.moveUnder trouble iterator m = (s, .error (.closed .iterator)) := by
  simp only [moveUnder, h]

theorem moveUnder_of_some (h : s.iterators.get? iterator = some row) (trouble : Option Error)
    (m : Move) :
    (s.moveUnder trouble iterator m).1.roster =
        (if s.reaches row m then s.roster.modifyEngine row.owner (Engine.accessed s.volume)
          else s.roster).setCursor iterator (row.cursor.move (s.readerUnder trouble row) m).1 ∧
      (s.moveUnder trouble iterator m).1.volume = s.volume ∧
      (s.moveUnder trouble iterator m).2 = (row.cursor.move (s.readerUnder trouble row) m).2 := by
  unfold moveUnder
  rw [h]
  refine ⟨?_, ?_, rfl⟩
  · refine (reported_warnDegraded _ row _).roster.trans ?_
    split <;> rfl
  · refine (reported_warnDegraded _ row _).volume.trans ?_
    split <;> rfl

/-- The iterator that is moved is as it was but for its cursor. -/
theorem get?_moveUnder (h : s.iterators.get? iterator = some row) (trouble : Option Error)
    (m : Move) :
    (s.moveUnder trouble iterator m).1.iterators.get? iterator =
      some { row with cursor := (row.cursor.move (s.readerUnder trouble row) m).1 } := by
  have hsome : (if s.reaches row m then
      s.roster.modifyEngine row.owner (Engine.accessed s.volume)
      else s.roster).iterators.get? iterator = some row := by
    split <;> exact h
  show (s.moveUnder trouble iterator m).1.roster.iterators.get? iterator = _
  rw [(moveUnder_of_some h trouble m).1, setCursor, Table.get?_modify, if_pos rfl, hsome]
  rfl

/-- A move that asks nothing changes nothing at all. -/
theorem moveUnder_of_idle (hcoherent : s.roster.Coherent)
    (h : s.iterators.get? iterator = some row) (hidle : row.cursor.query? m = none)
    (trouble : Option Error) : s.moveUnder trouble iterator m = (s, .ok ()) := by
  have hreaches : s.reaches row m = false := by rw [reaches, hidle]; rfl
  have hiterators : (s.iterators.modify iterator fun r => { r with cursor := row.cursor }) =
      s.iterators := hcoherent.iterators.modify_eq_self h rfl
  unfold moveUnder
  simp only [h, Cursor.move_of_idle hidle, hreaches, Bool.false_eq_true, if_false, hiterators]
  rfl

theorem coherent_moveUnder (h : s.roster.Coherent) (trouble : Option Error)
    (iterator : IteratorId) (m : Move) :
    (s.moveUnder trouble iterator m).1.roster.Coherent := by
  cases hrow : s.iterators.get? iterator with
  | none =>
    rw [moveUnder_of_none hrow]
    exact h
  | some row =>
    rw [(moveUnder_of_some hrow trouble m).1]
    split
    · exact (h.modifyEngine _ _).setCursor _ _
    · exact h.setCursor _ _

/-- A move opens, closes and hands out nothing. -/
theorem keeps_moveUnder (s : Store) (trouble : Option Error) (iterator : IteratorId) (m : Move) :
    (∀ id, (s.moveUnder trouble iterator m).1.isOpen id = s.isOpen id) ∧
      (∀ b, (s.moveUnder trouble iterator m).1.roster.owner? b = s.roster.owner? b) ∧
      (s.moveUnder trouble iterator m).1.sessions.next = s.sessions.next := by
  cases hrow : s.iterators.get? iterator with
  | none =>
    rw [moveUnder_of_none hrow]
    exact ⟨fun _ => rfl, fun _ => rfl, rfl⟩
  | some row =>
    have hroster := (moveUnder_of_some hrow trouble m).1
    refine ⟨fun id => ?_, fun b => ?_, ?_⟩
    · show (s.moveUnder trouble iterator m).1.roster.isOpen id = _
      rw [hroster]
      show Roster.isOpen (if _ then _ else _) id = _
      split
      · exact Roster.isOpen_modifySession id
      · rfl
    · rw [hroster, Roster.owner?_setCursor]
      split
      · exact Roster.owner?_modifySession b
      · rfl
    · show (s.moveUnder trouble iterator m).1.roster.sessions.next = _
      rw [hroster]
      split <;> rfl

/-- Moving one iterator leaves the others as they were. -/
theorem rests_moveUnder (s : Store) {other : IteratorId} (hne : iterator ≠ other)
    (trouble : Option Error) (m : Move) :
    s.roster.Rests (s.moveUnder trouble other m).1.roster iterator := by
  cases hrow : s.iterators.get? other with
  | none =>
    rw [moveUnder_of_none hrow]
    exact .refl s.roster iterator
  | some row =>
    rw [(moveUnder_of_some hrow trouble m).1]
    exact rests_reaching s hne row m _

/-! ## Moves of an iterator that stands -/

/-- An iterator goes where its standing goes, with the same outcome. -/
theorem stands_moveUnder (h : s.roster.Stands id iterator view standing)
    (trouble : Option Error) (m : Move) :
    (s.moveUnder trouble iterator m).1.roster.Stands id iterator view
        (standing.move view.seen.entries (view.obstacle trouble) m).1 ∧
      (s.moveUnder trouble iterator m).2 =
        (standing.move view.seen.entries (view.obstacle trouble) m).2 := by
  obtain ⟨row, hrow, howner, houtlook, hcursor⟩ := h.row
  obtain ⟨session, hsession⟩ := isOpen_eq_true_iff.mp h.isOpen
  have hreader : s.readerUnder trouble row = some (view.read trouble) := by
    rw [readerUnder, howner, show s.sessions.get? id = some session from hsession, houtlook]
    rfl
  have hmoved := get?_moveUnder hrow trouble m
  obtain ⟨hroster, _, houtcome⟩ := moveUnder_of_some hrow trouble m
  rw [hreader, hcursor, Standing.move_cursor h.fits] at hmoved hroster houtcome
  refine ⟨⟨?_, ?_, h.fits.move _ m, ?_⟩, houtcome⟩
  · refine ⟨_, hmoved, howner, ?_, rfl⟩
    rw [← houtlook, hroster]
    split <;> rfl
  · exact ((keeps_moveUnder s trouble iterator m).1 id).trans h.isOpen
  · rintro e rfl
    obtain rfl := h.stuck e rfl
    cases hasks : (Standing.degraded e).asks m with
    | false => rw [Standing.move_of_idle hasks]
    | true => exact congrArg Prod.fst (Standing.move_of_obstacle hasks)

/-- A move that succeeds leaves the trouble as it was. -/
theorem trouble_move (h : s.roster.Stands id iterator view standing)
    (hok : (s.move iterator m).2 = .ok ()) : (s.move iterator m).1.trouble id = s.trouble id := by
  obtain ⟨row, hrow, howner, houtlook, hcursor⟩ := h.row
  obtain ⟨hroster, hvolume, _⟩ := move_of_some hrow m
  have htrouble : s.troubleOf iterator = s.trouble id := by
    rw [troubleOf, owner?, hrow, Option.map_some, howner]
    rfl
  have hengine : (s.move iterator m).1.roster.engine? id =
      (if s.reaches row m then s.roster.modifyEngine row.owner (Engine.accessed s.volume)
        else s.roster).engine? id := by
    rw [hroster]
    rfl
  rw [Store.trouble, hengine, hvolume]
  split
  · rename_i hreaches
    -- The move has asked something, so the engine has answered, and is as it was.
    have hasks : standing.asks m = true := by
      rw [← Standing.isSome_query?_cursor h.fits, ← hcursor]
      exact (Bool.and_eq_true_iff.mp hreaches).1
    rw [move_eq_moveUnder, (stands_moveUnder h _ m).2, htrouble] at hok
    have hfree : view.obstacle (s.trouble id) = none := by
      cases hobstacle : view.obstacle (s.trouble id) with
      | none => rfl
      | some e =>
        rw [hobstacle, Standing.move_of_obstacle hasks] at hok
        cases hok
    have hnone : s.trouble id = none := by
      cases view with
      | ok _ => exact hfree
      | error e => cases hfree
    obtain ⟨session, hsession⟩ := isOpen_eq_true_iff.mp h.isOpen
    have hsome : s.roster.engine? id = some session.engine := by
      rw [Roster.engine?, hsession]
      rfl
    have haccess : session.engine.access s.volume = .ok () := by
      rw [Store.trouble, hsome, Option.bind_some] at hnone
      cases haccess : session.engine.access s.volume with
      | ok _ => rfl
      | error e =>
        rw [haccess] at hnone
        cases hnone
    rw [engine?_modifyEngine, howner, if_pos rfl, hsome, Option.map_some,
      Engine.accessed_of_ok haccess, ← hsome]
    rfl
  · rfl

/-! ## Incidents -/

/-- What happens to a store, or a move whose reads meet a given trouble. -/
inductive Incident where
  | happen (happening : Happening)
  | move (iterator : IteratorId) (m : Move) (trouble : Option Error)

/-- The store after an incident. -/
def incur (s : Store) : Incident → Store
  | .happen happening => (s.happen happening).1
  | .move iterator m trouble => (s.moveUnder trouble iterator m).1

/-- The store after incidents one after the other. -/
def endure (s : Store) (incidents : List Incident) : Store := incidents.foldl incur s

/-- The incident that an iterator is let go. -/
def Incident.drop (iterator : IteratorId) : Incident := .happen (.act (.dropIterator iterator))

/-- The move that an incident makes an iterator do, and the trouble that it meets. -/
def Incident.steer? (iterator : IteratorId) (s : Store) : Incident → Option (Move × Option Error)
  | .happen (.act (.move other m)) =>
    if other = iterator then some (m, s.troubleOf iterator) else none
  | .move other m trouble => if other = iterator then some (m, trouble) else none
  | _ => none

/-- The positioning call of an iterator that an incident is, with its outcome. -/
def Incident.call? (iterator : IteratorId) (s : Store) (incident : Incident) : Option Positioning :=
  (incident.steer? iterator s).map fun (m, trouble) => (m, (s.moveUnder trouble iterator m).2)

/-- The positioning calls of an iterator during incidents, with their outcomes. -/
def calls (iterator : IteratorId) : Store → List Incident → List Positioning
  | _, [] => []
  | s, incident :: rest =>
    (incident.call? iterator s).toList ++ calls iterator (s.incur incident) rest

theorem incur_of_steer {incident : Incident} {trouble : Option Error}
    (h : incident.steer? iterator s = some (m, trouble)) :
    s.incur incident = (s.moveUnder trouble iterator m).1 := by
  cases incident with
  | move other m' trouble' =>
    obtain ⟨rfl, heq⟩ := Option.ite_none_right_eq_some.mp h
    obtain ⟨rfl, rfl⟩ := Prod.mk.inj (Option.some.inj heq)
    rfl
  | happen happening =>
    cases happening with
    | unavailable id e => cases h
    | files v => cases h
    | act action =>
      cases action with
      | move other m' =>
        obtain ⟨rfl, heq⟩ := Option.ite_none_right_eq_some.mp h
        obtain ⟨rfl, rfl⟩ := Prod.mk.inj (Option.some.inj heq)
        exact congrArg Prod.fst (move_eq_moveUnder s other m')
      | _ => cases h

theorem coherent_incur (h : s.roster.Coherent) (incident : Incident) :
    (s.incur incident).roster.Coherent := by
  cases incident with
  | happen happening => exact coherent_happen h happening
  | move iterator m trouble => exact coherent_moveUnder h trouble iterator m

theorem coherent_endure (h : s.roster.Coherent) (incidents : List Incident) :
    (s.endure incidents).roster.Coherent := by
  induction incidents generalizing s with
  | nil => exact h
  | cons incident rest ih => exact ih (coherent_incur h incident)

/-- What an incident that neither moves an iterator nor lets it go makes of it. -/
theorem fate_incur (h : s.roster.Coherent) {incident : Incident}
    (hsteer : incident.steer? iterator s = none) (hdrop : incident ≠ .drop iterator) :
    s.roster.Fate (s.incur incident).roster iterator := by
  cases incident with
  | move other m trouble =>
    have hne : iterator ≠ other := by
      rintro rfl
      rw [Incident.steer?, if_pos rfl] at hsteer
      cases hsteer
    exact .rests (rests_moveUnder s hne trouble m)
  | happen happening =>
    cases happening with
    | act action =>
      refine fate_perform h ?_ ?_
      · rintro m rfl
        rw [Incident.steer?, if_pos rfl] at hsteer
        cases hsteer
      · rintro rfl
        exact hdrop rfl
    | unavailable id e =>
      show s.roster.Fate (s.unavailable id e).1.roster iterator
      unfold unavailable
      split
      · next hopen =>
        show s.roster.Fate (s.attach id (.error e)).1.roster iterator
        rw [(attach_spec s id (.error e)).1]
        exact h.fate_addIterator hopen _ iterator
      · exact .rests (.refl s.roster iterator)
    | files v => exact .rests (.refl s.roster iterator)

theorem owner?_incur_drop (s : Store) (iterator : IteratorId) :
    (s.incur (.drop iterator)).roster.owner? (.iterator iterator) = none := by
  show (s.dropIterator iterator).roster.owner? (.iterator iterator) = none
  rw [(dropIterator_spec s iterator).1, owner?_dropIterator, if_pos rfl]

/-! ## Runs -/

/-- Every iterator of an open session stands somewhere. -/
def AllStand (s : Store) : Prop :=
  ∀ {iterator : IteratorId} {id : SessionId},
    s.roster.owner? (.iterator iterator) = some id → s.isOpen id = true →
      ∃ view standing, s.roster.Stands id iterator view standing

theorem owner_of_stands (h : s.roster.Stands id iterator view standing) :
    s.roster.owner? (.iterator iterator) = some id := by
  obtain ⟨row, hrow, howner, _⟩ := h.row
  rw [owner?, hrow, Option.map_some, howner]

theorem allStand_incur (hcoherent : s.roster.Coherent) (h : s.AllStand) (incident : Incident) :
    (s.incur incident).AllStand := by
  intro iterator id howner hopen
  by_cases hdrop : incident = .drop iterator
  · rw [hdrop, owner?_incur_drop] at howner
    cases howner
  · cases hsteer : incident.steer? iterator s with
    | some call =>
      obtain ⟨m, trouble⟩ := call
      rw [incur_of_steer hsteer] at howner hopen ⊢
      obtain ⟨hopens, howners, _⟩ := keeps_moveUnder s trouble iterator m
      rw [howners] at howner
      rw [hopens] at hopen
      obtain ⟨view, standing, hstands⟩ := h howner hopen
      exact ⟨view, _, (stands_moveUnder hstands trouble m).1⟩
    | none =>
      cases fate_incur hcoherent hsteer hdrop with
      | rests hrests =>
        rw [hrests.owner?] at howner
        obtain ⟨view, standing, hstands⟩ := h howner (hrests.session howner hopen).1
        exact ⟨view, standing, hstands.rests hrests hopen⟩
      | born hnew id' view hstands =>
        obtain rfl := Option.some.inj (howner.symm.trans (owner_of_stands hstands))
        exact ⟨view, _, hstands⟩

/-- After every run, every iterator of an open session stands somewhere. -/
theorem allStand_endure (hcoherent : s.roster.Coherent) (h : s.AllStand)
    (incidents : List Incident) : (s.endure incidents).AllStand := by
  induction incidents generalizing s with
  | nil => exact h
  | cons incident rest ih =>
    exact ih (coherent_incur hcoherent incident) (allStand_incur hcoherent h incident)

theorem allStand_ofVolume (v : Volume) : (ofVolume v).AllStand := by
  intro iterator id howner
  cases howner

/-- An iterator goes on standing through an incident that leaves its session open and does not let
it go; the error that it keeps is the one that the call tells of, if the incident is one. -/
theorem stands_incur (hcoherent : s.roster.Coherent)
    (h : s.roster.Stands id iterator view standing) {incident : Incident}
    (hdrop : incident ≠ .drop iterator) (hopen : (s.incur incident).isOpen id = true) :
    ∃ standing', (s.incur incident).roster.Stands id iterator view standing' ∧
      standing'.error? =
        (incident.call? iterator s).toList.foldl Positioning.retain standing.error? := by
  cases hsteer : incident.steer? iterator s with
  | some call =>
    obtain ⟨m, trouble⟩ := call
    obtain ⟨hmoved, houtcome⟩ := stands_moveUnder h trouble m
    rw [incur_of_steer hsteer]
    refine ⟨_, hmoved, ?_⟩
    rw [Incident.call?, hsteer, Standing.error?_move, ← houtcome]
    rfl
  | none =>
    rw [Incident.call?, hsteer]
    cases fate_incur hcoherent hsteer hdrop with
    | rests hrests => exact ⟨standing, h.rests hrests hopen, rfl⟩
    | born hnew id' view' hstands =>
      obtain ⟨row, hrow, _⟩ := h.row
      rw [hnew] at hrow
      cases hrow

/-- An iterator that is not let go keeps its owner, and a session that is open has been so. -/
theorem stays_incur (hcoherent : s.roster.Coherent)
    (howner : s.roster.owner? (.iterator iterator) = some id) {incident : Incident}
    (hdrop : incident ≠ .drop iterator) :
    (s.incur incident).roster.owner? (.iterator iterator) = some id ∧
      ((s.incur incident).isOpen id = true → s.isOpen id = true) := by
  cases hsteer : incident.steer? iterator s with
  | some call =>
    obtain ⟨m, trouble⟩ := call
    obtain ⟨hopens, howners, _⟩ := keeps_moveUnder s trouble iterator m
    rw [incur_of_steer hsteer, howners, hopens]
    exact ⟨howner, fun hopen => hopen⟩
  | none =>
    cases fate_incur hcoherent hsteer hdrop with
    | rests hrests =>
      exact ⟨hrests.owner?.trans howner, fun hopen => (hrests.session howner hopen).1⟩
    | born hnew id' view' hstands =>
      rw [owner?, hnew] at howner
      cases howner

theorem stays_endure (hcoherent : s.roster.Coherent)
    (howner : s.roster.owner? (.iterator iterator) = some id) {incidents : List Incident}
    (hdrop : .drop iterator ∉ incidents) :
    (s.endure incidents).roster.owner? (.iterator iterator) = some id ∧
      ((s.endure incidents).isOpen id = true → s.isOpen id = true) := by
  induction incidents generalizing s with
  | nil => exact ⟨howner, fun hopen => hopen⟩
  | cons incident rest ih =>
    obtain ⟨hfirst, hrest⟩ := List.ne_and_not_mem_of_not_mem_cons hdrop
    obtain ⟨hkept, hbefore⟩ := stays_incur hcoherent howner (Ne.symm hfirst)
    obtain ⟨howner', hopens⟩ := ih (coherent_incur hcoherent incident) hkept hrest
    exact ⟨howner', fun hopen => hbefore (hopens hopen)⟩

/-- As long as an iterator and its session are there, the iterator stands somewhere in its view and
keeps the error that the calls of it tell of. -/
theorem stands_endure (hcoherent : s.roster.Coherent)
    (h : s.roster.Stands id iterator view standing) {incidents : List Incident}
    (hdrop : .drop iterator ∉ incidents) (hopen : (s.endure incidents).isOpen id = true) :
    ∃ standing', (s.endure incidents).roster.Stands id iterator view standing' ∧
      standing'.error? = (calls iterator s incidents).foldl Positioning.retain standing.error? := by
  induction incidents generalizing s standing with
  | nil => exact ⟨standing, h, rfl⟩
  | cons incident rest ih =>
    obtain ⟨hfirst, hrest⟩ := List.ne_and_not_mem_of_not_mem_cons hdrop
    have hcoherent' := coherent_incur hcoherent incident
    obtain ⟨howner, _⟩ := stays_incur hcoherent (owner_of_stands h) (Ne.symm hfirst)
    have hopen' := (stays_endure hcoherent' howner hrest).2 hopen
    obtain ⟨standing', hstands, herror⟩ := stands_incur hcoherent h (Ne.symm hfirst) hopen'
    obtain ⟨standing'', hstands', herror'⟩ := ih hcoherent' hstands hrest hopen
    refine ⟨standing'', hstands', ?_⟩
    rw [herror', herror, calls, List.foldl_append]

/-! ## What an iterator that stands shows -/

theorem entry?_of_stands (h : s.roster.Stands id iterator view standing) :
    s.entry? iterator = standing.shows view.seen.entries := by
  obtain ⟨row, hrow, howner, _, hcursor⟩ := h.row
  unfold Store.entry?
  rw [show s.iterators.get? iterator = some row from hrow, Option.bind_some, howner,
    show s.isOpen id = true from h.isOpen, hcursor, Standing.shows_cursor]

theorem status_of_stands (h : s.roster.Stands id iterator view standing) :
    s.status iterator = standing.status := by
  obtain ⟨row, hrow, howner, _, hcursor⟩ := h.row
  rw [Store.status, show s.iterators.get? iterator = some row from hrow]
  simp only [howner, show s.isOpen id = true from h.isOpen, hcursor, Standing.status_cursor]

theorem cursor_of_stands (h : s.roster.Stands id iterator view standing) :
    s.cursor iterator = standing.cursor view.seen := by
  obtain ⟨row, hrow, _, _, hcursor⟩ := h.row
  rw [Store.cursor, show s.iterators.get? iterator = some row from hrow]
  exact hcursor

/-- An iterator has as many entries to come by as there are to see. -/
theorem extent_of_stands (h : s.roster.Stands id iterator view standing) :
    s.extent iterator = view.seen.size := by
  obtain ⟨row, hrow, _, houtlook, _⟩ := h.row
  have hleased : (s.iterators.get? iterator).map Iterator.view = some row.view :=
    congrArg (Option.map Iterator.view) hrow
  cases hview : row.view with
  | error e =>
    rw [outlook, hview] at houtlook
    rw [hview] at hleased
    simp only [extent, hleased, ← houtlook]
    rfl
  | ok lease =>
    have hpinned : s.pinned lease = view := by
      rw [outlook, hview] at houtlook
      exact houtlook
    rw [hview] at hleased
    simp only [extent, hleased, hpinned]
    cases view <;> rfl

end OrderedStore.Store
