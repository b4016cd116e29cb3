import Mathlib.Logic.Function.Basic
import OrderedStore.Proofs.Store.Run

/-!
# The chronicle of a store

A `Chronicle` is kept from the actions on a store and their answers.  It has the map that
each open session has committed last, the map that each snapshot and iterator was made
over, and where the cursor of each iterator has been moved to.  It knows nothing of
leases, tables and engines: a snapshot's map is written down when the snapshot is taken
and is never changed afterwards.

A chronicle tells a store if the roster shows what the chronicle has.  Every action
keeps a chronicle telling its store, as long as nobody else writes to the files.
-/

set_option autoImplicit false

namespace OrderedStore

/-- The maps and places that the users of a store know of. -/
structure Chronicle where
  /-- What an open session has committed last. -/
  committed : SessionId → Option Keyspace
  /-- Whose a snapshot or iterator is, and the map that it was made over. -/
  views : Borrower → Option (SessionId × Keyspace)
  cursors : IteratorId → Option Cursor

namespace Chronicle

/-- The chronicle of a store with nothing open. -/
def empty : Chronicle := ⟨fun _ => none, fun _ => none, fun _ => none⟩

/-! ## Keeping a chronicle -/

/-- Writes down what a session has committed. -/
def hold (c : Chronicle) (id : SessionId) (m : Option Keyspace) : Chronicle :=
  { c with committed := Function.update c.committed id m }

/-- Writes down that a session has changed its map. -/
def change (c : Chronicle) (id : SessionId) (f : Keyspace → Keyspace) : Chronicle :=
  c.hold id ((c.committed id).map f)

/-- Writes down the view of a snapshot or iterator. -/
def see (c : Chronicle) (b : Borrower) (view : Option (SessionId × Keyspace)) : Chronicle :=
  { c with views := Function.update c.views b view }

/-- Writes down the place of a cursor. -/
def place (c : Chronicle) (iterator : IteratorId) (cursor : Option Cursor) : Chronicle :=
  { c with cursors := Function.update c.cursors iterator cursor }

theorem committed_hold (c : Chronicle) (id id' : SessionId) (m : Option Keyspace) :
    (c.hold id m).committed id' = if id' = id then m else c.committed id' :=
  Function.update_apply _ _ _ _

theorem views_see (c : Chronicle) (b b' : Borrower) (view : Option (SessionId × Keyspace)) :
    (c.see b view).views b' = if b' = b then view else c.views b' :=
  Function.update_apply _ _ _ _

theorem cursors_place (c : Chronicle) (iterator other : IteratorId) (cursor : Option Cursor) :
    (c.place iterator cursor).cursors other =
      if other = iterator then cursor else c.cursors other :=
  Function.update_apply _ _ _ _

@[simp] theorem cursors_see (c : Chronicle) (b : Borrower)
    (view : Option (SessionId × Keyspace)) : (c.see b view).cursors = c.cursors := rfl

@[simp] theorem views_place (c : Chronicle) (iterator : IteratorId) (cursor : Option Cursor) :
    (c.place iterator cursor).views = c.views := rfl

/-- The view of something new: the one of a snapshot, or else the latest map. -/
def viewFor (c : Chronicle) (id : SessionId) : Option SnapshotId → Option (SessionId × Keyspace)
  | some snapshot => c.views (.snapshot snapshot)
  | none => (c.committed id).map fun m => (id, m)

/-- How an iterator reads: from its own map, until its session is closed. -/
def reader (c : Chronicle) (iterator : IteratorId) : Option Reader :=
  (c.views (.iterator iterator)).bind fun view =>
    (c.committed view.1).map fun _ query => .ok (view.2.answer query)

/-- Keeps a chronicle by an action and its answer.  `found` is what a database that has
been opened at a path had in its file. -/
def note (c : Chronicle) (found : Keyspace) : Store.Action → Store.Answer → Chronicle
  | .openAt _ _, .opened (.ok id) => c.hold id (some found)
  | .openMemory _, .opened (.ok id) => c.hold id (some .empty)
  | .close id, _ => c.hold id none
  | .discard id, _ => c.hold id none
  | .put id key value _, .done (.ok ()) => c.change id fun m => m.insert key value
  | .putOption id key (some value) _, .done (.ok ()) => c.change id fun m => m.insert key value
  | .putOption id key none _, .done (.ok ()) => c.change id fun m => m.erase key
  | .delete id key _, .done (.ok ()) => c.change id fun m => m.erase key
  | .write id batch _, .done (.ok ()) => c.change id fun m => m.applyAll batch.operations
  | .snapshot id, .snapshot (.ok snapshot) => c.see (.snapshot snapshot) (c.viewFor id none)
  | .releaseSnapshot _ snapshot, _ => c.see (.snapshot snapshot) none
  | .dropSnapshot snapshot, _ => c.see (.snapshot snapshot) none
  | .iterate id snapshot, .iterator (.ok iterator) =>
    (c.see (.iterator iterator) (c.viewFor id snapshot)).place iterator (some .unpositioned)
  | .move iterator m, _ =>
    c.place iterator ((c.cursors iterator).map fun cursor =>
      (cursor.move (c.reader iterator) m).1)
  | .dropIterator iterator, _ => (c.see (.iterator iterator) none).place iterator none
  | _, _ => c

end Chronicle

namespace Store

/-- What a database that has just been opened holds. -/
def found (s : Store) : Answer → Keyspace
  | .opened (.ok id) => (s.roster.committed? id).getD .empty
  | _ => .empty

/-- Carries out one action and writes it down. -/
def chronicle (entry : Store × Chronicle) (action : Action) : Store × Chronicle :=
  let (s, answer) := entry.1.perform action
  (s, entry.2.note (s.found answer) action answer)

/-- Carries out actions one after the other and writes them down. -/
def chronicleAll (entry : Store × Chronicle) (actions : List Action) : Store × Chronicle :=
  actions.foldl chronicle entry

theorem chronicleAll_fst (entry : Store × Chronicle) (actions : List Action) :
    (chronicleAll entry actions).1 = entry.1.run actions := by
  induction actions generalizing entry with
  | nil => rfl
  | cons action rest ih => exact ih _

end Store

namespace Chronicle

/-! ## Telling a store -/

/-- A roster on a volume shows what the chronicle has. -/
structure Tells (c : Chronicle) (v : Volume) (r : Roster) : Prop where
  coherent : r.Coherent
  serves : v.Serves r.engine?
  committed : ∀ id, r.committed? id = c.committed id
  owner : ∀ b, r.owner? b = (c.views b).map Prod.fst
  view : ∀ {b : Borrower} {id : SessionId} {m : Keyspace}, c.views b = some (id, m) →
    r.isOpen id = true → r.viewOf b = some m
  cursor : ∀ iterator, r.cursor? iterator = c.cursors iterator
  entry_mem : ∀ {iterator : IteratorId} {id : SessionId} {m : Keyspace} {e : Entry},
    c.views (.iterator iterator) = some (id, m) → c.cursors iterator = some (.valid e) →
    e ∈ m.entries

theorem tells_empty {v : Volume} (h : v.WellFormed) : empty.Tells v .empty where
  coherent := Roster.coherent_empty
  serves := ⟨h, fun h => by simp [Roster.engine?, Roster.empty] at h,
    fun h => by simp [Roster.engine?, Roster.empty] at h⟩
  committed _ := rfl
  owner b := by cases b <;> rfl
  view h := by simp [empty] at h
  cursor _ := rfl
  entry_mem h := by simp [empty] at h

theorem isOpen_eq_isSome_committed? (r : Roster) (id : SessionId) :
    r.isOpen id = (r.committed? id).isSome := by
  rw [Roster.isOpen_eq_isSome_engine?, Roster.committed?, Option.isSome_map]

theorem hold_self {c : Chronicle} {id : SessionId} {m : Option Keyspace}
    (h : c.committed id = m) : c.hold id m = c := by
  rw [hold, ← h, Function.update_eq_self]

theorem place_self {c : Chronicle} {iterator : IteratorId} {cursor : Option Cursor}
    (h : c.cursors iterator = cursor) : c.place iterator cursor = c := by
  rw [place, ← h, Function.update_eq_self]

namespace Tells

variable {c : Chronicle} {v v' : Volume} {r r' : Roster} {id : SessionId}

theorem isOpen (h : c.Tells v r) (id : SessionId) : r.isOpen id = (c.committed id).isSome := by
  rw [isOpen_eq_isSome_committed?, h.committed]

theorem engine (h : c.Tells v r) {m : Keyspace} (hm : c.committed id = some m) :
    ∃ engine, r.engine? id = some engine ∧ engine.latest = m := by
  rw [← h.committed] at hm
  exact Option.map_eq_some_iff.mp hm

/-- A roster that looks the same is told by the same chronicle. -/
theorem congr (h : c.Tells v r) (hcoherent : r'.Coherent) (hserves : v'.Serves r'.engine?)
    (hcommitted : ∀ id, r'.committed? id = r.committed? id)
    (howner : ∀ b, r'.owner? b = r.owner? b) (hview : ∀ b, r'.viewOf b = r.viewOf b)
    (hcursor : ∀ iterator, r'.cursor? iterator = r.cursor? iterator) : c.Tells v' r' where
  coherent := hcoherent
  serves := hserves
  committed id := (hcommitted id).trans (h.committed id)
  owner b := (howner b).trans (h.owner b)
  view {b id m} hb hopen := by
    rw [isOpen_eq_isSome_committed?, hcommitted, ← isOpen_eq_isSome_committed?] at hopen
    rw [hview]
    exact h.view hb hopen
  cursor iterator := (hcursor iterator).trans (h.cursor iterator)
  entry_mem := h.entry_mem

/-! ### Sessions -/

theorem spares (h : c.Tells v r) (hspares : v.Spares v') : c.Tells v' r :=
  h.congr h.coherent (h.serves.of_spares hspares) (fun _ => rfl) (fun _ => rfl) (fun _ => rfl)
    fun _ => rfl

theorem skipSession (h : c.Tells v r) : c.Tells v r.skipSession := by
  refine h.congr h.coherent.skipSession h.serves (fun _ => rfl) ?_ ?_ fun _ => rfl
  · intro b
    cases b <;> rfl
  · intro b
    cases b <;> rfl

/-- Whatever leaves an engine as it is changes nothing. -/
theorem sameEngine (h : c.Tells v r) (id : SessionId) {f : Engine → Engine}
    (hsame : ∀ {engine : Engine}, r.engine? id = some engine → f engine = engine) :
    c.Tells v (r.modifyEngine id f) := by
  have hengine : ∀ id', (r.modifyEngine id f).engine? id' = r.engine? id' := by
    intro id'
    rw [Roster.engine?_modifyEngine]
    split
    · rename_i heq
      rw [heq]
      cases hid : r.engine? id with
      | none => rfl
      | some engine => rw [Option.map_some, hsame hid]
    · rfl
  refine h.congr (h.coherent.modifyEngine id _) (h.serves.congr hengine) ?_
    Roster.owner?_modifySession (Roster.Coherent.viewOf_modifyEngine id _) fun _ => rfl
  intro id'
  rw [Roster.committed?, hengine]
  rfl

/-- An access to an engine in working order changes nothing. -/
theorem accessed (h : c.Tells v r) (id : SessionId) :
    c.Tells v (r.modifyEngine id (Engine.accessed v)) :=
  h.sameEngine id fun hid => (h.serves.sits hid).accessed

theorem openSession (h : c.Tells v r) (session : Session) (hleases : session.leases = [])
    (hsnapshots : session.liveSnapshots = 0) (hiterators : session.liveIterators = 0)
    (hspares : v.Spares v') (hsits : session.engine.Sits v')
    (hfree : ∀ file ∈ session.engine.files, v.isLocked file = false) :
    (c.hold r.sessions.fresh (some session.engine.latest)).Tells v' (r.openSession session) where
  coherent := h.coherent.openSession hleases hsnapshots hiterators
  serves := h.serves.add hspares hsits hfree (Roster.engine?_openSession session)
  committed id := by
    rw [Roster.committed?, Roster.engine?_openSession, committed_hold, ← h.committed]
    split <;> rfl
  owner b := (Roster.owner?_openSession session b).trans (h.owner b)
  view {b id m} hb hopen := by
    have howner := h.owner b
    rw [show c.views b = some (id, m) from hb] at howner
    have hne : id ≠ r.sessions.fresh := by
      rintro rfl
      exact h.coherent.not_owner_fresh b howner
    rw [Roster.isOpen_eq_isSome_engine?, Roster.engine?_openSession, if_neg hne,
      ← Roster.isOpen_eq_isSome_engine?] at hopen
    rw [Roster.Coherent.viewOf_openSession]
    exact h.view hb hopen
  cursor := h.cursor
  entry_mem := h.entry_mem

theorem endSession (h : c.Tells v r) {session : Session} (hid : r.sessions.get? id = some session) :
    (c.hold id none).Tells (session.engine.release v) (r.endSession id) where
  coherent := h.coherent.endSession id
  serves := by
    have hengine : r.engine? id = some session.engine := by rw [Roster.engine?, hid]; rfl
    exact h.serves.release hengine (Roster.engine?_endSession id)
  committed id' := by
    rw [Roster.committed?, Roster.engine?_endSession, committed_hold, ← h.committed]
    split <;> rfl
  owner b := (Roster.owner?_endSession id b).trans (h.owner b)
  view {b id' m} hb hopen := by
    rw [Roster.isOpen_eq_isSome_engine?, Roster.engine?_endSession] at hopen
    split at hopen
    · simp at hopen
    · rename_i hne
      rw [← Roster.isOpen_eq_isSome_engine?] at hopen
      have howner := h.owner b
      rw [show c.views b = some (id', m) from hb] at howner
      have hother : r.owner? b ≠ some id := by
        rw [howner]
        exact fun heq => hne (Option.some.inj heq)
      rw [h.coherent.viewOf_endSession (Roster.isOpen_eq_true_iff.mpr ⟨session, hid⟩),
        if_neg hother]
      exact h.view hb hopen
  cursor iterator := (Roster.cursor?_endSession id iterator).trans (h.cursor iterator)
  entry_mem := h.entry_mem

/-- A commit is told if it succeeds; one that is refused has changed nothing. -/
theorem commit (h : c.Tells v r) {engine : Engine} (hid : r.engine? id = some engine)
    (mutations : List Mutation) (verdicts : Verdicts) :
    (verdicts.Grants .write mutations ∧ (engine.commit v mutations verdicts).2.2 = .ok () ∧
        (c.change id fun m => m.applyAll mutations).Tells (engine.commit v mutations verdicts).1
          (r.modifyEngine id fun _ => (engine.commit v mutations verdicts).2.1)) ∨
      ∃ fault, verdicts.Refuses .write mutations fault ∧
        (engine.commit v mutations verdicts).2.2 = .error (.ofFault fault) ∧
        c.Tells (engine.commit v mutations verdicts).1
          (r.modifyEngine id fun _ => (engine.commit v mutations verdicts).2.1) := by
  rcases (h.serves.sits hid).commit mutations verdicts with
    ⟨hgrants, heq⟩ | ⟨fault, hrefuses, heq⟩
  · have hcommitted : c.committed id = some engine.latest := by
      rw [← h.committed, Roster.committed?, hid]
      rfl
    rw [heq]
    refine Or.inl ⟨hgrants, rfl, ?_, ?_, ?_, ?_, ?_, h.cursor, h.entry_mem⟩
    · exact h.coherent.modifyEngine id _
    · refine (h.serves.store hid _).congr fun id' => ?_
      rw [Roster.engine?_modifyEngine, hid]
      rfl
    · intro id'
      rw [Roster.committed?, Roster.engine?_modifyEngine, hid, change, committed_hold, hcommitted,
        ← h.committed]
      split <;> rfl
    · exact fun b => (Roster.owner?_modifySession b).trans (h.owner b)
    · intro b id' m hb hopen
      rw [Roster.modifyEngine, Roster.isOpen_modifySession] at hopen
      rw [Roster.Coherent.viewOf_modifyEngine]
      exact h.view hb hopen
  · rw [heq]
    refine Or.inr ⟨fault, hrefuses, rfl, h.sameEngine id fun hengine => ?_⟩
    exact Option.some.inj (hid.symm.trans hengine)

/-! ### Snapshots and iterators -/

theorem addSnapshot (h : c.Tells v r) (hopen : r.isOpen id = true) (m : Keyspace) :
    (c.see (.snapshot r.snapshots.fresh) (some (id, m))).Tells v (r.addSnapshot id m) := by
  have hengine : ∀ id', (r.addSnapshot id m).engine? id' = r.engine? id' :=
    Roster.engine?_addSnapshot id m
  refine ⟨h.coherent.addSnapshot hopen m, h.serves.congr hengine, ?_, ?_, ?_, h.cursor, ?_⟩
  · intro id'
    rw [Roster.committed?, hengine]
    exact h.committed id'
  · intro b
    rw [Roster.owner?_addSnapshot, views_see, h.owner]
    split <;> rfl
  · intro b id' m' hb hopen'
    rw [views_see] at hb
    rw [h.coherent.viewOf_addSnapshot]
    split at hb
    · rename_i heq
      rw [if_pos heq, (Prod.mk.inj (Option.some.inj hb)).2]
    · rename_i hne
      rw [if_neg hne]
      refine h.view hb ?_
      rw [Roster.isOpen_eq_isSome_engine?, hengine, ← Roster.isOpen_eq_isSome_engine?] at hopen'
      exact hopen'
  · intro iterator id' m' e hb
    rw [views_see, if_neg (by simp)] at hb
    exact h.entry_mem hb

theorem addIterator (h : c.Tells v r) (hopen : r.isOpen id = true) (m : Keyspace) :
    ((c.see (.iterator r.iterators.fresh) (some (id, m))).place r.iterators.fresh
      (some .unpositioned)).Tells v (r.addIterator id (.ok m)) := by
  have hengine : ∀ id', (r.addIterator id (.ok m)).engine? id' = r.engine? id' :=
    Roster.engine?_addIterator id _
  refine ⟨h.coherent.addIterator hopen _, h.serves.congr hengine, ?_, ?_, ?_, ?_, ?_⟩
  · intro id'
    rw [Roster.committed?, hengine]
    exact h.committed id'
  · intro b
    rw [Roster.owner?_addIterator, views_place, views_see, h.owner]
    split <;> rfl
  · intro b id' m' hb hopen'
    rw [views_place, views_see] at hb
    rw [h.coherent.viewOf_addIterator]
    split at hb
    · rename_i heq
      rw [if_pos heq, (Prod.mk.inj (Option.some.inj hb)).2]
      rfl
    · rename_i hne
      rw [if_neg hne]
      refine h.view hb ?_
      rw [Roster.isOpen_eq_isSome_engine?, hengine, ← Roster.isOpen_eq_isSome_engine?] at hopen'
      exact hopen'
  · intro iterator
    rw [Roster.cursor?_addIterator, cursors_place, cursors_see, h.cursor]
  · intro iterator id' m' e hb he
    rw [cursors_place] at he
    rw [views_place, views_see] at hb
    split at he
    · simp at he
    · rename_i hne
      rw [if_neg (by simpa using hne)] at hb
      exact h.entry_mem hb he

theorem dropSnapshot (h : c.Tells v r) (snapshot : SnapshotId) :
    (c.see (.snapshot snapshot) none).Tells v (r.dropSnapshot snapshot) := by
  have hengine : ∀ id', (r.dropSnapshot snapshot).engine? id' = r.engine? id' :=
    Roster.engine?_dropSnapshot snapshot
  refine ⟨h.coherent.dropSnapshot snapshot, h.serves.congr hengine, ?_, ?_, ?_, ?_, ?_⟩
  · intro id'
    rw [Roster.committed?, hengine]
    exact h.committed id'
  · intro b
    rw [Roster.owner?_dropSnapshot, views_see, h.owner]
    split <;> rfl
  · intro b id' m hb hopen
    rw [views_see] at hb
    split at hb
    · simp at hb
    · rename_i hne
      rw [h.coherent.viewOf_dropSnapshot, if_neg hne]
      refine h.view hb ?_
      rw [Roster.isOpen_eq_isSome_engine?, hengine, ← Roster.isOpen_eq_isSome_engine?] at hopen
      exact hopen
  · exact fun iterator => (Roster.cursor?_dropSnapshot snapshot iterator).trans (h.cursor iterator)
  · intro iterator id' m e hb
    rw [views_see, if_neg (by simp)] at hb
    exact h.entry_mem hb

theorem dropIterator (h : c.Tells v r) (iterator : IteratorId) :
    ((c.see (.iterator iterator) none).place iterator none).Tells v (r.dropIterator iterator) := by
  have hengine : ∀ id', (r.dropIterator iterator).engine? id' = r.engine? id' :=
    Roster.engine?_dropIterator iterator
  refine ⟨h.coherent.dropIterator iterator, h.serves.congr hengine, ?_, ?_, ?_, ?_, ?_⟩
  · intro id'
    rw [Roster.committed?, hengine]
    exact h.committed id'
  · intro b
    rw [Roster.owner?_dropIterator, views_place, views_see, h.owner]
    split <;> rfl
  · intro b id' m hb hopen
    rw [views_place, views_see] at hb
    split at hb
    · simp at hb
    · rename_i hne
      rw [h.coherent.viewOf_dropIterator, if_neg hne]
      refine h.view hb ?_
      rw [Roster.isOpen_eq_isSome_engine?, hengine, ← Roster.isOpen_eq_isSome_engine?] at hopen
      exact hopen
  · intro other
    rw [Roster.cursor?_dropIterator, cursors_place, cursors_see, h.cursor]
  · intro other id' m e hb he
    rw [cursors_place] at he
    rw [views_place, views_see] at hb
    split at he
    · simp at he
    · rename_i hne
      rw [if_neg (by simpa using hne)] at hb
      exact h.entry_mem hb he

theorem setCursor (h : c.Tells v r) {iterator : IteratorId} {cursor : Cursor}
    (hmem : ∀ {id : SessionId} {m : Keyspace} {e : Entry},
      c.views (.iterator iterator) = some (id, m) → cursor = .valid e → e ∈ m.entries) :
    (c.place iterator ((c.cursors iterator).map fun _ => cursor)).Tells v
      (r.setCursor iterator cursor) := by
  refine ⟨h.coherent.setCursor iterator cursor, h.serves, h.committed, ?_, ?_, ?_, ?_⟩
  · exact fun b => (Roster.owner?_setCursor iterator cursor b).trans (h.owner b)
  · intro b id m hb hopen
    rw [Roster.Coherent.viewOf_setCursor]
    exact h.view hb hopen
  · intro other
    rw [Roster.cursor?_setCursor, cursors_place, h.cursor]
    split
    · rename_i heq
      rw [heq]
    · rfl
  · intro other id m e hb he
    rw [cursors_place] at he
    split at he
    · rename_i heq
      obtain ⟨old, _, hcursor⟩ := Option.map_eq_some_iff.mp he
      exact hmem (heq ▸ hb) hcursor
    · exact h.entry_mem hb he

end Tells

end Chronicle

end OrderedStore
