import OrderedStore.Proofs.Store.Effect

/-!
# The census of a store

A `Census` is kept from what happens to a store and the answers that are given: it lists
the snapshots and iterators that have been handed out and not given back, each with the
session that made it.  Closing a session strikes nobody off, as its children are still
there.

The census lists exactly the children that the roster has, with the same owners.  So the
counters of an open session are the lengths of its own part of the list, whoever closes,
drops or releases what and in whatever order.
-/

set_option autoImplicit false

namespace OrderedStore

/-- The snapshot that a borrower is. -/
def Borrower.snapshot? : Borrower → Option SnapshotId
  | .snapshot id => some id
  | .iterator _ => none

/-- The iterator that a borrower is. -/
def Borrower.iterator? : Borrower → Option IteratorId
  | .snapshot _ => none
  | .iterator id => some id

/-- Who has been handed out and not given back, and which session made it. -/
abbrev Census := List (Borrower × SessionId)

namespace Store

/-- What children come and go by. -/
inductive Happening where
  | act (action : Action)
  /-- An iterator of an open session is handed out although its view could not be opened. -/
  | unavailable (id : SessionId) (e : Error)
  /-- Somebody else changes the files. -/
  | files (volume : Volume)

/-- Hands out an iterator over the failure to open a view. -/
def unavailable (s : Store) (id : SessionId) (e : Error) : Store × Answer :=
  if s.isOpen id then
    ((s.attach id (.error e)).1, .iterator (.ok (s.attach id (.error e)).2))
  else (s, .iterator (.error (.closed .database)))

/-- The store after something has happened, and the answer. -/
def happen (s : Store) : Happening → Store × Answer
  | .act action => s.perform action
  | .unavailable id e => s.unavailable id e
  | .files v => ({ s with volume := v }, .done (.ok ()))

end Store

namespace Census

/-- Strikes a child off. -/
def strike (c : Census) (b : Borrower) : Census := c.filter fun entry => entry.1 ≠ b

/-- Keeps a census by what happens and the answer. -/
def note (c : Census) : Store.Happening → Store.Answer → Census
  | .act (.snapshot id), .snapshot (.ok snapshot) => (.snapshot snapshot, id) :: c
  | .act (.iterate id _), .iterator (.ok iterator) => (.iterator iterator, id) :: c
  | .unavailable id _, .iterator (.ok iterator) => (.iterator iterator, id) :: c
  | .act (.dropSnapshot snapshot), _ => c.strike (.snapshot snapshot)
  | .act (.releaseSnapshot _ snapshot), _ => c.strike (.snapshot snapshot)
  | .act (.dropIterator iterator), _ => c.strike (.iterator iterator)
  | _, _ => c

/-- The children of a session, as far as they are picked. -/
def childrenOf {α : Type} (c : Census) (pick : Borrower → Option α) (id : SessionId) : List α :=
  c.filterMap fun entry => if entry.2 = id then pick entry.1 else none

/-- The snapshots that a session made. -/
def snapshotsOf (c : Census) (id : SessionId) : List SnapshotId :=
  c.childrenOf Borrower.snapshot? id

/-- The iterators that a session made. -/
def iteratorsOf (c : Census) (id : SessionId) : List IteratorId :=
  c.childrenOf Borrower.iterator? id

section Children

variable {α : Type} {c : Census} {pick : Borrower → Option α} {child : α → Borrower}
  {id : SessionId}

theorem mem_childrenOf (hpick : ∀ b a, pick b = some a ↔ b = child a) {a : α} :
    a ∈ c.childrenOf pick id ↔ (child a, id) ∈ c := by
  unfold childrenOf
  rw [List.mem_filterMap]
  constructor
  · rintro ⟨⟨b, owner⟩, hentry, hfound⟩
    obtain ⟨rfl, hpicked⟩ := Option.ite_none_right_eq_some.mp hfound
    obtain rfl := (hpick b a).mp hpicked
    exact hentry
  · intro hentry
    exact ⟨_, hentry, (if_pos rfl).trans ((hpick _ a).mpr rfl)⟩

theorem nodup_childrenOf (hpick : ∀ b a, pick b = some a ↔ b = child a) (h : c.Nodup) :
    (c.childrenOf pick id).Nodup := by
  refine List.Nodup.filterMap ?_ h
  rintro ⟨b, owner⟩ ⟨b', owner'⟩ a hb hb'
  obtain ⟨rfl, hpicked⟩ := Option.ite_none_right_eq_some.mp hb
  obtain ⟨rfl, hpicked'⟩ := Option.ite_none_right_eq_some.mp hb'
  rw [(hpick b a).mp hpicked, (hpick b' a).mp hpicked']

theorem snapshot?_eq_some_iff (b : Borrower) (snapshot : SnapshotId) :
    b.snapshot? = some snapshot ↔ b = .snapshot snapshot := by
  cases b <;> simp [Borrower.snapshot?]

theorem iterator?_eq_some_iff (b : Borrower) (iterator : IteratorId) :
    b.iterator? = some iterator ↔ b = .iterator iterator := by
  cases b <;> simp [Borrower.iterator?]

theorem mem_snapshotsOf {snapshot : SnapshotId} :
    snapshot ∈ c.snapshotsOf id ↔ (.snapshot snapshot, id) ∈ c :=
  mem_childrenOf snapshot?_eq_some_iff

theorem mem_iteratorsOf {iterator : IteratorId} :
    iterator ∈ c.iteratorsOf id ↔ (.iterator iterator, id) ∈ c :=
  mem_childrenOf iterator?_eq_some_iff

end Children

/-! ## Keeping up with what is known of borrowers -/

/-- The census has everyone that a session is known for, each once and with the session. -/
structure Records (c : Census) (known : Borrower → Option SessionId) : Prop where
  nodup : (c.map Prod.fst).Nodup
  mem_iff : ∀ b id, (b, id) ∈ c ↔ known b = some id

namespace Records

variable {c : Census} {known known' : Borrower → Option SessionId} {b : Borrower}
  {id : SessionId}

theorem congr (h : c.Records known) (hknown : ∀ b, known' b = known b) : c.Records known' where
  nodup := h.nodup
  mem_iff b id := by rw [hknown]; exact h.mem_iff b id

theorem not_mem_of_none (h : c.Records known) (hnone : known b = none) :
    b ∉ c.map Prod.fst := by
  intro hmem
  obtain ⟨⟨_, owner⟩, hentry, rfl⟩ := List.mem_map.mp hmem
  have howner := (h.mem_iff _ owner).mp hentry
  rw [hnone] at howner
  exact nomatch howner

theorem add (h : c.Records known) (hnone : known b = none)
    (hknown : ∀ b', known' b' = if b' = b then some id else known b') :
    Records ((b, id) :: c) known' where
  nodup := List.nodup_cons.mpr ⟨h.not_mem_of_none hnone, h.nodup⟩
  mem_iff b' id' := by
    rw [List.mem_cons, Prod.mk.injEq, h.mem_iff, hknown]
    by_cases hb : b' = b
    · rw [if_pos hb, hb, hnone, Option.some.injEq, eq_comm (a := id)]
      simp
    · rw [if_neg hb]
      simp [hb]

theorem strike (h : c.Records known)
    (hknown : ∀ b', known' b' = if b' = b then none else known b') :
    (c.strike b).Records known' where
  nodup := h.nodup.sublist (List.filter_sublist.map Prod.fst)
  mem_iff b' id' := by
    rw [Census.strike, List.mem_filter, h.mem_iff, hknown]
    by_cases hb : b' = b <;> simp [hb]

end Records

/-! ## Listing the children of a roster -/

/-- The census lists the children of the roster, each once and with its owner. -/
structure Lists (c : Census) (r : Roster) : Prop where
  nodup : (c.map Prod.fst).Nodup
  mem_iff : ∀ b id, (b, id) ∈ c ↔ r.owner? b = some id

theorem lists_empty : Lists [] .empty where
  nodup := List.nodup_nil
  mem_iff b id := by cases b <;> simp [Roster.owner?, Roster.empty]

namespace Lists

variable {c : Census} {r r' : Roster} {b : Borrower} {id : SessionId}

theorem records (h : c.Lists r) : c.Records r.owner? := ⟨h.nodup, h.mem_iff⟩

theorem of_records (h : c.Records r.owner?) : c.Lists r := ⟨h.nodup, h.mem_iff⟩

theorem congr (h : c.Lists r) (howner : ∀ b, r'.owner? b = r.owner? b) : c.Lists r' :=
  of_records (h.records.congr howner)

theorem add (h : c.Lists r) (hnone : r.owner? b = none)
    (howner : ∀ b', r'.owner? b' = if b' = b then some id else r.owner? b') :
    Lists ((b, id) :: c) r' :=
  of_records (h.records.add hnone howner)

theorem strike (h : c.Lists r)
    (howner : ∀ b', r'.owner? b' = if b' = b then none else r.owner? b') :
    (c.strike b).Lists r' :=
  of_records (h.records.strike howner)

/-- The roster has as many snapshots of a session as the census. -/
theorem snapshotsOf_eq (h : c.Lists r) (hcoherent : r.Coherent) (id : SessionId) :
    r.snapshotsOf id = (c.snapshotsOf id).length := by
  have hnodup : (c.snapshotsOf id).Nodup := nodup_childrenOf snapshot?_eq_some_iff h.nodup.of_map
  refine Table.count_eq_length hcoherent.snapshots hnodup fun snapshot => ?_
  show snapshot ∈ c.snapshotsOf id ↔ _
  rw [mem_snapshotsOf, h.mem_iff]
  simp [Roster.owner?]

theorem iteratorsOf_eq (h : c.Lists r) (hcoherent : r.Coherent) (id : SessionId) :
    r.iteratorsOf id = (c.iteratorsOf id).length := by
  have hnodup : (c.iteratorsOf id).Nodup := nodup_childrenOf iterator?_eq_some_iff h.nodup.of_map
  refine Table.count_eq_length hcoherent.iterators hnodup fun iterator => ?_
  show iterator ∈ c.iteratorsOf id ↔ _
  rw [mem_iteratorsOf, h.mem_iff]
  simp [Roster.owner?]

end Lists

end Census

/-! ## Keeping a census -/

namespace Store

variable {s : Store} {c : Census}

/-- Lets something happen and writes it down. -/
def follow (entry : Store × Census) (event : Happening) : Store × Census :=
  let (s, answer) := entry.1.happen event
  (s, entry.2.note event answer)

/-- Lets things happen one after the other and writes them down. -/
def followAll (entry : Store × Census) (events : List Happening) : Store × Census :=
  events.foldl follow entry

theorem coherent_happen (h : s.roster.Coherent) (event : Happening) :
    (s.happen event).1.roster.Coherent := by
  cases event with
  | act action => exact coherent_perform h action
  | files v => exact h
  | unavailable id e =>
    show (s.unavailable id e).1.roster.Coherent
    unfold unavailable
    split
    · next hopen =>
      show (s.attach id (.error e)).1.roster.Coherent
      rw [(attach_spec s id (.error e)).1]
      exact h.addIterator hopen _
    · exact h

/-- An action hands out and takes back what its answer says. -/
theorem lists_perform (hcoherent : s.roster.Coherent) (h : c.Lists s.roster) (action : Action) :
    (c.note (.act action) (s.perform action).2).Lists (s.perform action).1.roster := by
  cases action with
  | openAt path options =>
    rcases openAt_spec s path options with ⟨s', engine, heq, hopened⟩ | ⟨s', e, heq, hfailed⟩
    · obtain ⟨logger, options', hroster⟩ := hopened.roster
      simp only [perform, heq]
      rw [hroster]
      exact h.congr (Roster.owner?_openSession _)
    · simp only [perform, heq]
      exact h.congr (keeps_of_skipSession hfailed.roster).owner
  | openMemory options =>
    rcases openInMemory_spec s options with ⟨s', heq, _, hopened⟩ | ⟨s', e, heq, _, hfailed⟩
    · obtain ⟨logger, options', hroster⟩ := hopened.roster
      simp only [perform, heq]
      rw [hroster]
      exact h.congr (Roster.owner?_openSession _)
    · simp only [perform, heq]
      exact h.congr (keeps_of_skipSession hfailed.roster).owner
  | close id =>
    simp only [perform, roster_close]
    exact h.congr (Roster.owner?_endSession id)
  | discard id =>
    simp only [perform, roster_discard]
    exact h.congr (Roster.owner?_endSession id)
  | put id key value sync => exact h.congr (keeps_commit s id _).owner
  | putOption id key value sync => exact h.congr (keeps_commit s id _).owner
  | delete id key sync => exact h.congr (keeps_commit s id _).owner
  | write id batch sync => exact h.congr (keeps_commit s id _).owner
  | get id snapshot key => exact h.congr (keeps_get s id snapshot key).owner
  | property id name => exact h.congr (keeps_property s id name).owner
  | snapshot id =>
    simp only [perform]
    have heffect := effect_snapshot hcoherent id
    generalize (s.snapshot id).2 = outcome at heffect ⊢
    cases heffect with
    | snapshot _ hfresh howner => exact h.add hfresh howner
    | kept hbuilt _ howner =>
      cases outcome with
      | ok snapshot => cases hbuilt
      | error e => exact h.congr howner
  | releaseSnapshot id snapshot =>
    simp only [perform, releaseSnapshot, (dropSnapshot_spec s snapshot).1]
    exact h.strike (Roster.owner?_dropSnapshot snapshot)
  | dropSnapshot snapshot =>
    simp only [perform, (dropSnapshot_spec s snapshot).1]
    exact h.strike (Roster.owner?_dropSnapshot snapshot)
  | iterate id snapshot =>
    simp only [perform]
    have heffect := effect_iterate hcoherent id snapshot
    generalize (s.iterate id snapshot).2 = outcome at heffect ⊢
    cases heffect with
    | iterator _ hfresh howner => exact h.add hfresh howner
    | kept hbuilt _ howner =>
      cases outcome with
      | ok iterator => cases hbuilt
      | error e => exact h.congr howner
  | move iterator m => exact h.congr (effect_move s iterator m).2
  | dropIterator iterator =>
    simp only [perform, (dropIterator_spec s iterator).1]
    exact h.strike (Roster.owner?_dropIterator iterator)
  | destroy path => exact h.congr (Keeps.of_roster (destroy_spec s path).1).owner
  | repair path => exact h.congr (keeps_of_skipSession (repair_spec s path).1).owner
  | listen filter => exact h
  | sway verdicts => exact h
  | report event => exact h

theorem lists_happen (hcoherent : s.roster.Coherent) (h : c.Lists s.roster)
    (event : Happening) :
    (c.note event (s.happen event).2).Lists (s.happen event).1.roster := by
  cases event with
  | act action => exact lists_perform hcoherent h action
  | files v => exact h
  | unavailable id e =>
    show (c.note (.unavailable id e) (s.unavailable id e).2).Lists (s.unavailable id e).1.roster
    unfold unavailable
    split
    · obtain ⟨hroster, _, hid⟩ := attach_spec s id (.error e)
      simp only [hroster, hid]
      exact h.add hcoherent.owner?_iterator_fresh (Roster.owner?_addIterator id _)
    · exact h

/-- Whatever happens, the census goes on listing the children of the store. -/
theorem lists_followAll (hcoherent : s.roster.Coherent) (h : c.Lists s.roster)
    (events : List Happening) :
    (followAll (s, c) events).1.roster.Coherent ∧
      (followAll (s, c) events).2.Lists (followAll (s, c) events).1.roster := by
  induction events generalizing s c with
  | nil => exact ⟨hcoherent, h⟩
  | cons event rest ih =>
    exact ih (coherent_happen hcoherent event) (lists_happen hcoherent h event)

/-- The census of a store that begins with nothing open. -/
theorem lists_ofVolume (v : Volume) (events : List Happening) :
    (followAll (ofVolume v, []) events).1.roster.Coherent ∧
      (followAll (ofVolume v, []) events).2.Lists
        (followAll (ofVolume v, []) events).1.roster :=
  lists_followAll (coherent_ofVolume v) Census.lists_empty events

end Store

end OrderedStore
