import OrderedStore.Proofs.Gateway.Reflection
import OrderedStore.Proofs.Gateway.Run

/-!
# What a host observes

A mirror that is kept from calls and replies goes on reflecting the desk, as long as nobody
else changes the files.  Each order is one of the actions that chronicles are kept by, or
a few of them, so its chronicle is known, and the mirror follows it.
-/

set_option autoImplicit false

namespace OrderedStore

open Store

namespace Mirror.Mirrors

variable {m : Mirror} {d : Desk}

/-- The session behind a token has a map. -/
theorem committed {c : Chronicle} (htells : c.Tells d.store.volume d.store.roster)
    (h : d.Orderly) {t : Token} {id : SessionId} (hheld : (t, id) ∈ d.databases.held) :
    ∃ k, c.committed id = some k := by
  have hopen : d.store.isOpen id = (c.committed id).isSome := htells.isOpen id
  rw [h.isOpen hheld] at hopen
  exact Option.isSome_iff_exists.mp hopen.symm

theorem batches (hm : m.Mirrors d) (t : Token) : m.batches t = d.batches.find? t := by
  obtain ⟨c, _, hreflects⟩ := hm
  exact hreflects.batches t

/-- The map of a token is the one that is committed in the session behind it. -/
theorem contents_eq (hm : m.Mirrors d) (t : Token) :
    m.contents t = (d.databases.find? t).bind d.store.roster.committed? := by
  obtain ⟨c, htells, hreflects⟩ := hm
  rw [hreflects.contents]
  exact congrArg (Option.bind _) (funext fun id => (htells.committed id).symm)

/-- What has a map in the mirror is a database of the desk. -/
theorem database (hm : m.Mirrors d) (h : d.Orderly) {t : Token} :
    (∃ k, m.contents t = some k) ↔ ∃ id, (t, id) ∈ d.databases.held := by
  obtain ⟨c, htells, hreflects⟩ := hm
  rw [hreflects.contents]
  constructor
  · rintro ⟨k, hk⟩
    obtain ⟨id, hfind, _⟩ := Option.bind_eq_some_iff.mp hk
    exact ⟨id, h.databases.find?_eq_some_iff.mp hfind⟩
  · rintro ⟨id, hheld⟩
    rw [h.databases.find?_eq_some_iff.mpr hheld]
    exact committed htells h hheld

/-! ## Databases -/

/-- What the engine grants does not show in a map. -/
theorem withVerdicts (hm : m.Mirrors d) (verdicts : Verdicts) :
    m.Mirrors { d with store := { d.store with verdicts } } := by
  obtain ⟨c, htells, hreflects⟩ := hm
  exact ⟨c, htells, hreflects.withStore _⟩

/-- An action that chronicles do not write down changes no map. -/
theorem unwritten (hm : m.Mirrors d) {owner : Token} {action : Action}
    (hnote : ∀ (c : Chronicle) found, c.note found action (d.store.perform action).2 = c)
    (hbuilt : (d.store.perform action).2.isBuilt = false) (given : Option Token) :
    m.Mirrors (d.carryOut given (.act owner action)).1 := by
  obtain ⟨c, htells, hreflects⟩ := hm
  have htells' := htells.perform action
  have hsame : (Store.chronicle (d.store, c) action).2 = c := hnote c _
  rw [hsame] at htells'
  show m.Mirrors (Desk.settle { d with store := (d.store.perform action).1 } owner given
    (d.store.perform action).2).1
  rw [Desk.settle_of_not_built _ owner given hbuilt]
  exact ⟨c, htells', hreflects.withStore _⟩

/-- Mutations that are sent through a token go into the map of the token if the engine grants
them all; if it refuses them anywhere, the host is told why and the map stays. -/
theorem commit (hm : m.Mirrors d) (h : d.Orderly) {t : Token} {id : SessionId}
    (hheld : (t, id) ∈ d.databases.held) {owner : Token} (action : Action) (write : Write)
    (hperform : d.store.perform action =
      ((d.store.commit id write).1, .done (d.store.commit id write).2)) (given : Option Token) :
    (d.store.verdicts.Grants .write write.mutations ∧
        (d.carryOut given (.act owner action)).2 = ⟨.untouched, none⟩ ∧
        (m.change t write.mutations).Mirrors (d.carryOut given (.act owner action)).1) ∨
      ∃ fault, d.store.verdicts.Refuses .write write.mutations fault ∧
        (d.carryOut given (.act owner action)).2 = ⟨.untouched, some (.store (.ofFault fault))⟩ ∧
        m.Mirrors (d.carryOut given (.act owner action)).1 := by
  obtain ⟨c, htells, hreflects⟩ := hm
  obtain ⟨k, hk⟩ := committed htells h hheld
  have hcarry : d.carryOut given (.act owner action) =
      Desk.settle { d with store := (d.store.commit id write).1 } owner given
        (.done (d.store.commit id write).2) := by
    simp only [Desk.carryOut, hperform]
  rcases htells.commit_eq hk write with
    ⟨hgrants, houtcome, htells'⟩ | ⟨fault, hrefuses, houtcome, htells'⟩
  · rw [hcarry, houtcome]
    refine Or.inl ⟨hgrants, rfl, c.change id fun k => k.applyAll write.mutations, htells', ?_⟩
    have hcontents : m.contents t = c.committed id := by
      rw [hreflects.contents, h.databases.find?_eq_some_iff.mpr hheld, Option.bind_some]
    have hheld' :=
      hreflects.hold h hheld ((c.committed id).map fun k => k.applyAll write.mutations)
    rw [← hcontents] at hheld'
    rw [Mirror.change, Chronicle.change, ← hcontents]
    exact hheld'.withStore _
  · rw [hcarry, houtcome]
    exact Or.inr ⟨fault, hrefuses, rfl, c, htells', hreflects.withStore _⟩

/-- A database that has been opened is under its token, or closed again. -/
theorem opened (hm : m.Mirrors d) (h : d.Orderly) {s : Store} {engine : Engine}
    (hopened : d.store.OpenedAs s engine) {given : Option Token}
    (hfresh : ∀ t, given = some t → t ≠ 0 ∧ t ∉ d.databases.issued) (owner : Token) :
    let result := Desk.settle { d with store := s } owner given
      (.opened (.ok d.store.sessions.fresh))
    result.2 = Desk.handedOut .database given ∧
      (∀ t, given = some t → result.1.found given = engine.latest) ∧
      Mirrors (given.elim m fun t => m.hold t (some engine.latest)) result.1 := by
  obtain ⟨c, htells, hreflects⟩ := hm
  obtain ⟨hcommitted, htells'⟩ := htells.openedAs hopened
  have hnone : ∀ t, (t, d.store.sessions.fresh) ∉ d.databases.held := by
    intro t hheld
    have hclosed := not_isOpen_fresh h.steady.coherent
    rw [h.isOpen hheld] at hclosed
    simp at hclosed
  refine ⟨by cases given <;> rfl, ?_, ?_⟩
  · rintro t rfl
    obtain ⟨hzero, hnew⟩ := hfresh t rfl
    have hfind : (d.databases.give t d.store.sessions.fresh).find? t =
        some d.store.sessions.fresh := by
      rw [h.databases.find?_give hzero hnew, if_pos rfl]
    show (((d.databases.give t d.store.sessions.fresh).find? t).bind s.roster.committed?).getD
      .empty = engine.latest
    rw [hfind, Option.bind_some, hcommitted, Option.getD_some]
  cases given with
  | none =>
    have hended : ((c.hold d.store.sessions.fresh (some engine.latest)).hold
        d.store.sessions.fresh none).Tells (s.discard d.store.sessions.fresh).volume
        (s.discard d.store.sessions.fresh).roster := by
      rw [roster_discard, volume_discard]
      exact htells'.ended d.store.sessions.fresh
    have hother := hreflects.hold_other h.databases hnone (some engine.latest)
    exact ⟨_, hended, (hother.hold_other h.databases hnone none).withStore _⟩
  | some t =>
    obtain ⟨hzero, hnew⟩ := hfresh t rfl
    exact ⟨_, htells', (hreflects.withStore s).give h.databases hzero hnew hnone _⟩

/-! ## Snapshots -/

theorem snapshot (hm : m.Mirrors d) (h : d.Orderly) {t : Token} {id : SessionId}
    (hheld : (t, id) ∈ d.databases.held) {given : Option Token}
    (hfresh : ∀ u, given = some u → u ≠ 0 ∧ u ∉ d.snapshots.issued) :
    (d.carryOut given (.act t (.snapshot id))).2 = Desk.handedOut .snapshot given ∧
      Mirrors (given.elim m fun u => m.pin u ((m.contents t).map fun k => ⟨t, k⟩))
        (d.carryOut given (.act t (.snapshot id))).1 := by
  obtain ⟨c, htells, hreflects⟩ := hm
  obtain ⟨k, hk⟩ := committed htells h hheld
  obtain ⟨houtcome, htells'⟩ := htells.snapshot_eq hk
  have hcontents : m.contents t = some k := by
    rw [hreflects.contents, h.databases.find?_eq_some_iff.mpr hheld, Option.bind_some, hk]
  have hnone : ∀ u child, (u, child) ∈ d.snapshots.held → child.thing ≠ d.store.snapshots.fresh :=
    fun _ _ => h.snapshots.thing_ne h.steady.coherent.owner?_snapshot_fresh
  have hcarry : d.carryOut given (.act t (.snapshot id)) = Desk.settle
      { d with store := (d.store.snapshot id).1 } t given (.snapshot (d.store.snapshot id).2) := rfl
  rw [hcarry, houtcome, hcontents]
  refine ⟨by cases given <;> rfl, ?_⟩
  cases given with
  | none =>
    have hdropped := htells'.dropSnapshot d.store.snapshots.fresh
    obtain ⟨hroster, hvolume⟩ :=
      dropSnapshot_spec (d.store.snapshot id).1 d.store.snapshots.fresh
    rw [← hroster, ← hvolume] at hdropped
    have hother := hreflects.see_other h.snapshots.valid hnone (some (id, k))
    exact ⟨_, hdropped, (hother.see_other h.snapshots.valid hnone none).withStore _⟩
  | some u =>
    obtain ⟨hzero, hnew⟩ := hfresh u rfl
    exact ⟨_, htells', (hreflects.withStore (d.store.snapshot id).1).pin h.snapshots.valid hzero
      hnew hnone id k⟩

theorem freeSnapshot (hm : m.Mirrors d) (h : d.Orderly) {t : Token} {child : Child SnapshotId}
    (hheld : (t, child) ∈ d.snapshots.held) (given : Option Token) :
    (m.pin t none).Mirrors (d.carryOut given (.freeSnapshot t child.thing)).1 := by
  obtain ⟨c, htells, hreflects⟩ := hm
  obtain ⟨hroster, hvolume⟩ := dropSnapshot_spec d.store child.thing
  have hdropped := htells.dropSnapshot child.thing
  rw [← hroster, ← hvolume] at hdropped
  exact ⟨_, hdropped, (hreflects.unpin h hheld).withStore _⟩

/-! ## Iterators -/

/-- The map that a read goes to, on the desk and in the mirror. -/
theorem viewFor {c : Chronicle} (htells : c.Tells d.store.volume d.store.roster)
    (hreflects : m.Reflects c d) (h : d.Orderly) {t u : Token} {id : SessionId}
    {snapshot : Option SnapshotId} (hheld : (t, id) ∈ d.databases.held)
    (hsnapshot : d.snapshotFor? t u = some snapshot) :
    ∃ p, c.viewFor id snapshot = some (id, p) ∧ m.viewFor t u = some p := by
  unfold Desk.snapshotFor? at hsnapshot
  unfold Mirror.viewFor
  split at hsnapshot
  · rename_i hzero
    obtain rfl := Option.some.inj hsnapshot
    obtain ⟨k, hk⟩ := committed htells h hheld
    refine ⟨k, by rw [Chronicle.viewFor, hk]; rfl, ?_⟩
    rw [if_pos hzero, hreflects.contents, h.databases.find?_eq_some_iff.mpr hheld,
      Option.bind_some, hk]
  · rename_i hnonzero
    obtain ⟨child, hfind, howned⟩ := Option.bind_eq_some_iff.mp hsnapshot
    split at howned
    · rename_i howner
      obtain rfl := Option.some.inj howned
      have hchild := h.snapshots.valid.find?_eq_some_iff.mp hfind
      obtain ⟨id', hheld', howner'⟩ := h.snapshots.owned hchild
      rw [howner] at hheld'
      obtain rfl := h.databases.functional hheld hheld'
      rw [htells.owner] at howner'
      obtain ⟨⟨id', p⟩, hview, hid⟩ := Option.map_eq_some_iff.mp howner'
      simp only at hid
      subst hid
      refine ⟨p, hview, ?_⟩
      rw [if_neg hnonzero, hreflects.pinned, hfind, Option.bind_some, hview]
      simp [howner]
    · simp at howned

theorem iterate (hm : m.Mirrors d) (h : d.Orderly) {t u : Token} {id : SessionId}
    {through : Option SnapshotId} (hheld : (t, id) ∈ d.databases.held)
    (hsnapshot : d.snapshotFor? t u = some through) {given : Option Token}
    (hfresh : ∀ u, given = some u → u ≠ 0 ∧ u ∉ d.iterators.issued) :
    (d.carryOut given (.act t (.iterate id through))).2 = Desk.handedOut .iterator given ∧
      Mirrors (given.elim m fun w =>
          m.walk w ((m.viewFor t u).map fun k => ⟨t, ⟨k, .unpositioned⟩⟩))
        (d.carryOut given (.act t (.iterate id through))).1 := by
  obtain ⟨c, htells, hreflects⟩ := hm
  obtain ⟨k, hk⟩ := committed htells h hheld
  obtain ⟨p, hp, hview⟩ := viewFor htells hreflects h hheld hsnapshot
  obtain ⟨houtcome, htells'⟩ := htells.iterate_eq hk hp
  have hnone : ∀ u child, (u, child) ∈ d.iterators.held → child.thing ≠ d.store.iterators.fresh :=
    fun _ _ => h.iterators.thing_ne h.steady.coherent.owner?_iterator_fresh
  have hcarry : d.carryOut given (.act t (.iterate id through)) = Desk.settle
      { d with store := (d.store.iterate id through).1 } t given
      (.iterator (d.store.iterate id through).2) := rfl
  rw [hcarry, houtcome, hview]
  refine ⟨by cases given <;> rfl, ?_⟩
  cases given with
  | none =>
    have hdropped := htells'.dropIterator d.store.iterators.fresh
    obtain ⟨hroster, hvolume⟩ :=
      dropIterator_spec (d.store.iterate id through).1 d.store.iterators.fresh
    rw [← hroster, ← hvolume] at hdropped
    have hother := hreflects.place_other h.iterators.valid hnone (some (id, p))
      (some .unpositioned)
    exact ⟨_, hdropped, (hother.place_other h.iterators.valid hnone none none).withStore _⟩
  | some w =>
    obtain ⟨hzero, hnew⟩ := hfresh w rfl
    exact ⟨_, htells', (hreflects.withStore (d.store.iterate id through).1).walk
      h.iterators.valid hzero hnew hnone id p .unpositioned⟩

/-- An iterator of the desk is on a tour of its own map. -/
theorem tour {c : Chronicle} (htells : c.Tells d.store.volume d.store.roster)
    (hreflects : m.Reflects c d) (h : d.Orderly) {t : Token} {child : Child IteratorId}
    (hheld : (t, child) ∈ d.iterators.held) :
    ∃ id k p cursor, (child.owner, id) ∈ d.databases.held ∧ c.committed id = some k ∧
      c.views (.iterator child.thing) = some (id, p) ∧ c.cursors child.thing = some cursor ∧
      m.tours t = some ⟨child.owner, ⟨p, cursor⟩⟩ := by
  obtain ⟨id, hdatabase, howner⟩ := h.iterators.owned hheld
  obtain ⟨k, hk⟩ := committed htells h hdatabase
  obtain ⟨row, hrow, _⟩ := row_of_owner howner
  have hcursor : c.cursors child.thing = some row.cursor := by
    rw [← htells.cursor]
    show (d.store.iterators.get? child.thing).map Iterator.cursor = _
    rw [hrow]
    rfl
  rw [htells.owner] at howner
  obtain ⟨⟨id', p⟩, hview, rfl⟩ := Option.map_eq_some_iff.mp howner
  refine ⟨id', k, p, row.cursor, hdatabase, hk, hview, hcursor, ?_⟩
  rw [hreflects.tours, h.iterators.valid.find?_eq_some_iff.mpr hheld, Option.bind_some, hview,
    Option.bind_some, hcursor]
  rfl

/-- A move succeeds, and goes where the map of the iterator says. -/
theorem move (hm : m.Mirrors d) (h : d.Orderly) {t : Token} {child : Child IteratorId}
    (hheld : (t, child) ∈ d.iterators.held) (move : Move) (owner : Token)
    (given : Option Token) :
    (d.carryOut given (.act owner (.move child.thing move))).2 = ⟨.untouched, none⟩ ∧
      (m.advance t move).Mirrors (d.carryOut given (.act owner (.move child.thing move))).1 := by
  obtain ⟨c, htells, hreflects⟩ := hm
  obtain ⟨id, k, p, cursor, _, hk, hview, hcursor, htour⟩ := tour htells hreflects h hheld
  obtain ⟨houtcome, htells'⟩ := htells.move_eq hcursor move
  have hreader : c.reader child.thing = some fun query => .ok (p.answer query) := by
    rw [Chronicle.reader, hview, Option.bind_some, hk]
    rfl
  rw [hreader] at houtcome htells'
  have hok : (cursor.move (some fun query => .ok (p.answer query)) move).2 = .ok () := by
    unfold Cursor.move
    split <;> rfl
  rw [hok] at houtcome
  have hcarry : d.carryOut given (.act owner (.move child.thing move)) =
      ({ d with store := (d.store.move child.thing move).1 }, ⟨.untouched, none⟩) := by
    have hperform : d.store.perform (.move child.thing move) =
        ((d.store.move child.thing move).1, .done (.ok ())) := by rw [← houtcome]; rfl
    simp only [Desk.carryOut, hperform, Desk.settle]
  rw [hcarry]
  refine ⟨rfl, _, htells', ?_⟩
  rw [Mirror.advance, htour]
  exact (hreflects.place h hheld hview _).withStore _

theorem freeIterator (hm : m.Mirrors d) (h : d.Orderly) {t : Token} {child : Child IteratorId}
    (hheld : (t, child) ∈ d.iterators.held) (given : Option Token) :
    (m.walk t none).Mirrors (d.carryOut given (.freeIterator t child.thing)).1 := by
  obtain ⟨c, htells, hreflects⟩ := hm
  obtain ⟨hroster, hvolume⟩ := dropIterator_spec d.store child.thing
  have hdropped := htells.dropIterator child.thing
  rw [← hroster, ← hvolume] at hdropped
  exact ⟨_, hdropped, (hreflects.unwalk h hheld).withStore _⟩

/-! ## Reading -/

/-- What has a map in the mirror is a snapshot of the desk. -/
theorem pinned (hm : m.Mirrors d) (h : d.Orderly) {t owner : Token} :
    (∃ k, m.pinned t = some ⟨owner, k⟩) ↔
      ∃ snapshot, (t, ⟨owner, snapshot⟩) ∈ d.snapshots.held := by
  obtain ⟨c, htells, hreflects⟩ := hm
  rw [hreflects.pinned]
  constructor
  · rintro ⟨k, hk⟩
    obtain ⟨⟨owner', snapshot⟩, hfind, hview⟩ := Option.bind_eq_some_iff.mp hk
    obtain ⟨view, _, heq⟩ := Option.map_eq_some_iff.mp hview
    obtain ⟨rfl, _⟩ := Child.mk.inj heq
    exact ⟨snapshot, h.snapshots.valid.find?_eq_some_iff.mp hfind⟩
  · rintro ⟨snapshot, hheld⟩
    obtain ⟨id, _, howner⟩ := h.snapshots.owned hheld
    rw [htells.owner] at howner
    obtain ⟨⟨_, p⟩, hview, _⟩ := Option.map_eq_some_iff.mp howner
    exact ⟨p, by rw [h.snapshots.valid.find?_eq_some_iff.mpr hheld, Option.bind_some, hview]; rfl⟩

/-- What is on a tour in the mirror is an iterator of the desk. -/
theorem tours (hm : m.Mirrors d) (h : d.Orderly) {t owner : Token} :
    (∃ tour, m.tours t = some ⟨owner, tour⟩) ↔
      ∃ iterator, (t, ⟨owner, iterator⟩) ∈ d.iterators.held := by
  obtain ⟨c, htells, hreflects⟩ := hm
  constructor
  · rintro ⟨tour, htour⟩
    rw [hreflects.tours] at htour
    obtain ⟨⟨owner', iterator⟩, hfind, hview⟩ := Option.bind_eq_some_iff.mp htour
    obtain ⟨view, _, hcursor⟩ := Option.bind_eq_some_iff.mp hview
    obtain ⟨cursor, _, heq⟩ := Option.map_eq_some_iff.mp hcursor
    obtain ⟨rfl, _⟩ := Child.mk.inj heq
    exact ⟨iterator, h.iterators.valid.find?_eq_some_iff.mp hfind⟩
  · rintro ⟨iterator, hheld⟩
    obtain ⟨_, _, p, cursor, _, _, _, _, htour⟩ := tour htells hreflects h hheld
    exact ⟨⟨p, cursor⟩, htour⟩

/-- A read that the mirror has a map for can be made. -/
theorem readable (hm : m.Mirrors d) (h : d.Orderly) {t u : Token} {k : Keyspace}
    (hview : m.viewFor t u = some k) :
    ∃ id through, (t, id) ∈ d.databases.held ∧ d.snapshotFor? t u = some through := by
  unfold Mirror.viewFor at hview
  split at hview
  · rename_i hzero
    obtain ⟨id, hheld⟩ := (hm.database h).mp ⟨k, hview⟩
    exact ⟨id, none, hheld, by rw [Desk.snapshotFor?, if_pos hzero]⟩
  · rename_i hnonzero
    obtain ⟨⟨owner, p⟩, hpinned, hown⟩ := Option.bind_eq_some_iff.mp hview
    split at hown
    · rename_i howner
      obtain ⟨snapshot, hheld⟩ := (hm.pinned h).mp ⟨p, hpinned⟩
      obtain ⟨id, hdatabase, _⟩ := h.snapshots.owned hheld
      refine ⟨id, some snapshot, howner ▸ hdatabase, ?_⟩
      rw [Desk.snapshotFor?, if_neg hnonzero, h.snapshots.valid.find?_eq_some_iff.mpr hheld,
        Option.bind_some, if_pos howner]
    · simp at hown

/-- The mirror has a map for every read that can be made. -/
theorem viewable (hm : m.Mirrors d) (h : d.Orderly) {t u : Token} {id : SessionId}
    {through : Option SnapshotId} (hheld : (t, id) ∈ d.databases.held)
    (hsnapshot : d.snapshotFor? t u = some through) : ∃ k, m.viewFor t u = some k := by
  obtain ⟨c, htells, hreflects⟩ := hm
  obtain ⟨p, _, hview⟩ := viewFor htells hreflects h hheld hsnapshot
  exact ⟨p, hview⟩

/-- A read gives what that map has. -/
theorem get_eq (hm : m.Mirrors d) (h : d.Orderly) {t u : Token} {k : Keyspace}
    (hview : m.viewFor t u = some k) {id : SessionId} {through : Option SnapshotId}
    (hheld : (t, id) ∈ d.databases.held) (hsnapshot : d.snapshotFor? t u = some through)
    (key : Bytes) : (d.store.get id through key).2 = .ok (k.get? key) := by
  obtain ⟨c, htells, hreflects⟩ := hm
  obtain ⟨latest, hlatest⟩ := committed htells h hheld
  obtain ⟨p, hp, hview'⟩ := viewFor htells hreflects h hheld hsnapshot
  obtain rfl := Option.some.inj (hview.symm.trans hview')
  exact htells.get_eq hlatest hp key

/-- An iterator is where its tour is. -/
theorem entry?_eq (hm : m.Mirrors d) (h : d.Orderly) {t : Token} {child : Child IteratorId}
    (hheld : (t, child) ∈ d.iterators.held) {tour : Child Tour} (htour : m.tours t = some tour) :
    d.store.entry? child.thing = tour.thing.current ∧
      d.store.status child.thing = tour.thing.cursor.status true := by
  obtain ⟨c, htells, hreflects⟩ := hm
  obtain ⟨id, k, p, cursor, hdatabase, hk, hview, hcursor, htour'⟩ :=
    Mirrors.tour htells hreflects h hheld
  obtain rfl := Option.some.inj (htour.symm.trans htour')
  constructor
  · obtain ⟨cursor', hcursor', hentry⟩ := htells.entry?_eq hk hview
    obtain rfl := Option.some.inj (hcursor.symm.trans hcursor')
    exact hentry
  · obtain ⟨id', hdatabase', howner⟩ := h.iterators.owned hheld
    obtain ⟨row, hrow, rfl⟩ := row_of_owner howner
    have hplace : some row.cursor = some cursor := by
      rw [← hcursor, ← htells.cursor]
      show _ = (d.store.iterators.get? child.thing).map Iterator.cursor
      rw [hrow]
      rfl
    unfold status
    rw [hrow]
    simp only
    rw [h.isOpen hdatabase', Option.some.inj hplace]

/-! ## Closing -/

/-- A chronicle that has lost sight of some children. -/
structure Forgets (c c' : Chronicle) (gone : Borrower → Prop) : Prop where
  committed : c'.committed = c.committed
  views : ∀ b, ¬ gone b → c'.views b = c.views b
  cursors : ∀ iterator, ¬ gone (.iterator iterator) → c'.cursors iterator = c.cursors iterator

/-- Letting children go one after the other loses sight of them only. -/
theorem forgets_run {α : Type} {child : α → Borrower} (drop : α → Action)
    (hdrop : ∀ {s : Store} {c : Chronicle}, c.Tells s.volume s.roster → ∀ thing,
      ∃ c', c'.Tells (s.perform (drop thing)).1.volume (s.perform (drop thing)).1.roster ∧
        Forgets c c' fun b => b = child thing)
    {s : Store} {c : Chronicle} (htells : c.Tells s.volume s.roster) (things : List α) :
    ∃ c', c'.Tells (s.run (things.map drop)).volume (s.run (things.map drop)).roster ∧
      Forgets c c' fun b => ∃ thing ∈ things, b = child thing := by
  induction things generalizing s c with
  | nil => exact ⟨c, htells, rfl, fun _ _ => rfl, fun _ _ => rfl⟩
  | cons thing rest ih =>
    obtain ⟨c', htells', hfirst⟩ := hdrop htells thing
    obtain ⟨c'', htells'', hrest⟩ := ih htells'
    refine ⟨c'', htells'', hrest.committed.trans hfirst.committed, fun b hb => ?_,
      fun iterator hb => ?_⟩
    · simp only [List.mem_cons, exists_eq_or_imp, not_or] at hb
      exact (hrest.views b hb.2).trans (hfirst.views b hb.1)
    · simp only [List.mem_cons, exists_eq_or_imp, not_or] at hb
      exact (hrest.cursors iterator hb.2).trans (hfirst.cursors iterator hb.1)

theorem forgets_dropIterator {s : Store} {c : Chronicle} (htells : c.Tells s.volume s.roster)
    (iterator : IteratorId) :
    ∃ c', c'.Tells (s.dropIterator iterator).volume (s.dropIterator iterator).roster ∧
      Forgets c c' fun b => b = .iterator iterator := by
  obtain ⟨hroster, hvolume⟩ := dropIterator_spec s iterator
  rw [hroster, hvolume]
  refine ⟨_, htells.dropIterator iterator, rfl, fun b hb => ?_, fun other hb => ?_⟩
  · rw [Chronicle.views_place, Chronicle.views_see, if_neg hb]
  · rw [Chronicle.cursors_place, if_neg fun heq => hb (congrArg Borrower.iterator heq),
      Chronicle.cursors_see]

theorem forgets_dropSnapshot {s : Store} {c : Chronicle} (htells : c.Tells s.volume s.roster)
    (snapshot : SnapshotId) :
    ∃ c', c'.Tells (s.dropSnapshot snapshot).volume (s.dropSnapshot snapshot).roster ∧
      Forgets c c' fun b => b = .snapshot snapshot := by
  obtain ⟨hroster, hvolume⟩ := dropSnapshot_spec s snapshot
  rw [hroster, hvolume]
  refine ⟨_, htells.dropSnapshot snapshot, rfl, fun b hb => ?_, fun _ _ => rfl⟩
  rw [Chronicle.views_see, if_neg hb]

theorem close (hm : m.Mirrors d) (h : d.Orderly) {t : Token} {id : SessionId}
    (hheld : (t, id) ∈ d.databases.held) (given : Option Token) :
    (m.close t).Mirrors (d.carryOut given (.close t id)).1 := by
  obtain ⟨c, htells, hreflects⟩ := hm
  have hreported : c.Tells (d.store.run (d.leftOpen t)).volume
      (d.store.run (d.leftOpen t)).roster := by
    unfold Desk.leftOpen
    simp only
    split <;> exact htells
  obtain ⟨c₁, htells₁, hiterators⟩ := forgets_run .dropIterator
    (fun htells iterator => forgets_dropIterator htells iterator) hreported
    (d.iterators.madeThrough t)
  obtain ⟨c₂, htells₂, hsnapshots⟩ := forgets_run .dropSnapshot
    (fun htells snapshot => forgets_dropSnapshot htells snapshot) htells₁
    (d.snapshots.madeThrough t)
  -- The children are let go first, iterators before snapshots; then the session ends.
  have hrun : d.store.run (d.emptying t) = ((d.store.run (d.leftOpen t)).run
      ((d.iterators.madeThrough t).map .dropIterator)).run
      ((d.snapshots.madeThrough t).map .dropSnapshot) := by
    unfold Desk.emptying
    rw [run_append, run_append]
  rw [← hrun] at htells₂
  have hended : (c₂.hold id none).Tells (d.carryOut given (.close t id)).1.store.volume
      (d.carryOut given (.close t id)).1.store.roster := by
    show (c₂.hold id none).Tells ((d.store.run (d.emptying t)).close id).volume
      ((d.store.run (d.emptying t)).close id).roster
    rw [roster_close, volume_close]
    exact htells₂.ended id
  refine ⟨_, hended, (hreflects.close h hheld (hsnapshots.committed.trans hiterators.committed)
    (fun snapshot hkept => ?_) fun iterator hkept => ?_).withStore _⟩
  · rw [hsnapshots.views _ (by simpa using hkept), hiterators.views _ (by simp)]
  · rw [hsnapshots.views _ (by simp), hiterators.views _ (by simpa using hkept),
      hsnapshots.cursors _ (by simp), hiterators.cursors _ (by simpa using hkept)]
    exact ⟨rfl, rfl⟩

/-! ## Batches -/

theorem keep (hm : m.Mirrors d) {t : Token} {batch : Option Batch} {l : Ledger Batch}
    (hl : ∀ u, l.find? u = if u = t then batch else d.batches.find? u) :
    (m.keep t batch).Mirrors { d with batches := l } := by
  obtain ⟨c, htells, hreflects⟩ := hm
  refine ⟨c, htells, hreflects.withBatches fun u => ?_⟩
  rw [Function.update_apply, hl, hreflects.batches]

theorem setBatch (hm : m.Mirrors d) (h : d.Orderly) {t : Token} {old : Batch}
    (hfind : d.batches.find? t = some old) (batch : Batch) (given : Option Token) :
    (m.keep t (some batch)).Mirrors (d.carryOut given (.setBatch t batch)).1 := by
  refine hm.keep fun u => ?_
  rw [h.batches.find?_alter]
  split
  · rename_i heq
    rw [heq, hfind, Option.map_some]
  · exact Option.map_id'

theorem freeBatch (hm : m.Mirrors d) (h : d.Orderly) (t : Token) (given : Option Token) :
    (m.keep t none).Mirrors (d.carryOut given (.freeBatch t)).1 := by
  refine hm.keep fun u => ?_
  rw [h.batches.find?_strike]
  split
  · rename_i heq
    exact Option.filter_eq_none_iff.mpr fun batch _ => by simp [heq]
  · rename_i hne
    cases d.batches.find? u with
    | none => rfl
    | some batch => rw [Option.filter_some, if_pos (by simp [hne])]

theorem createBatch (hm : m.Mirrors d) (h : d.Orderly) {given : Option Token}
    (hfresh : ∀ t, given = some t → t ≠ 0 ∧ t ∉ d.batches.issued) :
    (d.carryOut given .createBatch).2 = Desk.handedOut .batch given ∧
      Mirrors (given.elim m fun t => m.keep t (some .empty))
        (d.carryOut given .createBatch).1 := by
  refine ⟨by cases given <;> rfl, ?_⟩
  cases given with
  | none => exact hm
  | some t =>
    obtain ⟨hzero, hnew⟩ := hfresh t rfl
    exact hm.keep (h.batches.find?_give hzero hnew .empty)

/-! ## Calls -/

section Note

variable {found : Keyspace} {call : Call} {reply : Reply} {order : Order}

theorem note_of_ok (hidle : call.isIdle = false) (hok : reply.failure = none) :
    m.note found call reply = m.done found call reply.given := by
  rw [Mirror.note, hok, hidle]
  rfl

/-- A call that the host is told has been done. -/
theorem note_of_told (hidle : call.isIdle = false) {told : Reply} (hreply : reply = told)
    (hok : told.failure = none) : m.note found call reply = m.done found call reply.given :=
  note_of_ok hidle (hreply ▸ hok)

theorem note_of_done (hdone : ∀ given, m.done found call given = m) :
    m.note found call reply = m := by
  unfold Mirror.note
  split
  · exact hdone _
  · rfl

theorem note_of_error {failure : Failure} (h : reply.failure = some failure) :
    m.note found call reply = m := by
  rw [Mirror.note, h]
  rfl

/-- A call that builds something changes the mirror if it has given a token. -/
theorem note_of_handedOut (hidle : call.isIdle = false) {kind : HandleKind}
    (hreply : reply = Desk.handedOut kind reply.given) :
    m.note found call reply = reply.given.elim m fun t => m.done found call (some t) := by
  cases hgiven : reply.given with
  | none =>
    rw [hgiven] at hreply
    rw [hreply]
    rfl
  | some t =>
    rw [hgiven] at hreply
    have hok : reply.failure = none := by rw [hreply]; rfl
    rw [note_of_ok hidle hok, hgiven]
    rfl

theorem done_of_move? {t : Token} {move : Move} (hmove : call.move? = some (t, move))
    (given : Option Token) : m.done found call given = m.advance t move := by
  cases call with
  | seek u key =>
    obtain ⟨contents, hread, heq⟩ := Option.map_eq_some_iff.mp hmove
    obtain ⟨rfl, rfl⟩ := Prod.mk.inj heq
    rw [← Slice.contents_of_read (Desk.ok_of_toOption hread)]
    rfl
  | first u | last u | next u | prev u =>
    obtain ⟨rfl, rfl⟩ := Prod.mk.inj (Option.some.inj hmove)
    rfl
  | _ => exact absurd hmove (by simp [Call.move?])

theorem done_of_mutation? {t : Token} {mutation : Mutation}
    (hmutation : call.mutation? = some (t, mutation)) (given : Option Token) :
    m.done found call given = m.queue t mutation := by
  cases call with
  | batchPut u key value =>
    obtain ⟨read, hread, heq⟩ := Option.map_eq_some_iff.mp hmutation
    obtain ⟨rfl, rfl⟩ := Prod.mk.inj heq
    rw [Gateway.eq_of_readPut (Desk.ok_of_toOption hread)]
    rfl
  | batchDelete u key =>
    obtain ⟨read, hread, heq⟩ := Option.map_eq_some_iff.mp hmutation
    obtain ⟨rfl, rfl⟩ := Prod.mk.inj heq
    rw [Gateway.eq_of_readDelete (Desk.ok_of_toOption hread)]
    rfl
  | _ => exact absurd hmutation (by simp [Call.mutation?])

/-- A call that has opened something: the host holds its map under the token it is given. -/
theorem note_opened (hm : m.Mirrors d) (h : d.Orderly) {action : Action} {s : Store}
    {engine : Engine} (hperform : d.store.perform action =
      (s, .opened (.ok d.store.sessions.fresh)))
    (hopened : d.store.OpenedAs s engine) (hidle : call.isIdle = false)
    (hreply : reply = (d.carryOut reply.given (.act 0 action)).2)
    (hfresh : ∀ t, reply.given = some t → t ≠ 0 ∧ t ∉ d.databases.issued)
    (hdone : ∀ t, m.done engine.latest call (some t) = m.hold t (some engine.latest)) :
    (m.note ((d.carryOut reply.given (.act 0 action)).1.found reply.given) call reply).Mirrors
      (d.carryOut reply.given (.act 0 action)).1 := by
  have hcarry : d.carryOut reply.given (.act 0 action) =
      Desk.settle { d with store := s } 0 reply.given (.opened (.ok d.store.sessions.fresh)) := by
    simp only [Desk.carryOut, hperform]
  obtain ⟨hgiven, hfound, hmirrors⟩ := hm.opened h hopened hfresh 0
  rw [hcarry] at hreply ⊢
  rw [note_of_handedOut hidle (hreply.trans hgiven)]
  cases hcase : reply.given with
  | none => rwa [hcase] at hmirrors
  | some t =>
    rw [hcase] at hmirrors hfound
    rw [Option.elim_some, hfound t rfl, hdone]
    exact hmirrors

/-- A call that could not open anything. -/
theorem note_unopened (hm : m.Mirrors d) {action : Action} {s : Store} {e : Error}
    (hperform : d.store.perform action = (s, .opened (.error e)))
    (hnote : ∀ (c : Chronicle) found, c.note found action (.opened (.error e)) = c)
    (hreply : reply = (d.carryOut reply.given (.act 0 action)).2) :
    (m.note found call reply).Mirrors (d.carryOut reply.given (.act 0 action)).1 := by
  have hfailure : reply.failure = some (.store e) := by
    rw [hreply]
    simp only [Desk.carryOut, hperform, Desk.settle]
  rw [note_of_error hfailure]
  refine hm.unwritten (fun c found => ?_) ?_ reply.given
  · rw [hperform]
    exact hnote c found
  · rw [hperform]
    rfl

/-- A call that sends mutations through the token of a database, whether they are made or
not. -/
theorem note_commit (hm : m.Mirrors d) (h : d.Orderly) {t : Token} {id : SessionId}
    (hheld : (t, id) ∈ d.databases.held) (action : Action) (write : Write)
    (hperform : d.store.perform action =
      ((d.store.commit id write).1, .done (d.store.commit id write).2))
    (hidle : call.isIdle = false)
    (hreply : reply = (d.carryOut reply.given (.act t action)).2)
    (hdone : m.done found call reply.given = m.change t write.mutations) :
    (m.note found call reply).Mirrors (d.carryOut reply.given (.act t action)).1 := by
  rcases hm.commit h hheld action write hperform reply.given with
    ⟨_, hok, hmirrors⟩ | ⟨fault, _, herror, hmirrors⟩
  · rw [note_of_ok hidle (congrArg Reply.failure (hreply.trans hok)), hdone]
    exact hmirrors
  · rw [note_of_error (congrArg Reply.failure (hreply.trans herror))]
    exact hmirrors

/-- A call that does what it asks for keeps the mirror in step with the desk. -/
theorem note (hm : m.Mirrors d) (h : d.Orderly) (hasks : d.Asks call order)
    (hreply : reply = (d.carryOut reply.given order).2) (hfresh : d.Fresh order reply.given) :
    (m.note ((d.carryOut reply.given order).1.found reply.given) call reply).Mirrors
      (d.carryOut reply.given order).1 := by
  have hidle := h.isIdle_eq_false hasks
  have hdatabase : ∀ {t : Token} {id : SessionId}, d.databases.find? t = some id →
      (t, id) ∈ d.databases.held := h.databases.find?_eq_some_iff.mp
  have hiterator : ∀ {t : Token} {child : Child IteratorId}, d.iterators.find? t = some child →
      (t, child) ∈ d.iterators.held := h.iterators.valid.find?_eq_some_iff.mp
  cases hasks with
  | @openPath path text hpath options =>
    rcases openAt_spec d.store text (options.getD {}) with
      ⟨s, engine, heq, hopened⟩ | ⟨s, e, heq, hfailed⟩
    · exact hm.note_opened h (by simp only [perform, heq]) hopened hidle hreply
        (fun t => hfresh .database t rfl) fun _ => rfl
    · have hperform : d.store.perform (.openAt text (options.getD {})) =
          (s, .opened (.error e)) := by
        simp only [perform, heq]
      exact hm.note_unopened hperform (fun _ _ => rfl) hreply
  | openMemory options =>
    rcases openInMemory_spec d.store (options.getD {}) with
      ⟨s, heq, _, hopened⟩ | ⟨s, e, heq, _, _⟩
    · exact hm.note_opened h (by simp only [perform, heq]) hopened hidle hreply
        (fun t => hfresh .database t rfl) fun _ => rfl
    · have hperform : d.store.perform (.openMemory (options.getD {})) =
          (s, .opened (.error e)) := by
        simp only [perform, heq]
      exact hm.note_unopened hperform (fun _ _ => rfl) hreply
  | close hfind =>
    rw [note_of_told hidle hreply rfl]
    exact hm.close h (hdatabase hfind) reply.given
  | @put t id key value k v hfind hkey hvalue sync =>
    refine hm.note_commit h (hdatabase hfind) (.put id k v sync) ⟨[.put k v], sync⟩ rfl hidle
      hreply ?_
    rw [← Slice.contents_of_read hkey, ← Slice.contents_of_read hvalue]
    rfl
  | @delete t id key k hfind hkey sync =>
    refine hm.note_commit h (hdatabase hfind) (.delete id k sync) ⟨[.delete k], sync⟩ rfl hidle
      hreply ?_
    rw [← Slice.contents_of_read hkey]
    rfl
  | @write t u id batch hfind hbatch sync =>
    refine hm.note_commit h (hdatabase hfind) (.write id batch sync) ⟨batch.operations, sync⟩
      rfl hidle hreply ?_
    -- The mirror applies its own batch, which is the one that the gateway writes.
    have hqueued : m.batches u = some batch := hm.batches u ▸ hbatch
    rw [Mirror.done, hqueued]
    rfl
  | get | property | destroy | repair =>
    rw [note_of_done fun _ => rfl]
    exact hm.unwritten (fun _ _ => rfl) rfl reply.given
  | iterate hfind hsnapshot fillCache =>
    obtain ⟨hgiven, hmirrors⟩ := hm.iterate h (hdatabase hfind) hsnapshot
      fun w => hfresh .iterator w rfl
    rw [note_of_handedOut hidle (hreply.trans hgiven)]
    exact hmirrors
  | @move _ t move child hmove hfind =>
    obtain ⟨hdone, hmirrors⟩ := hm.move h (hiterator hfind) move child.owner reply.given
    rw [note_of_told hidle (hreply.trans hdone) rfl, done_of_move? hmove]
    exact hmirrors
  | isValid | key | value | countBatch =>
    rw [note_of_done fun _ => rfl]
    exact hm
  | @status t child hfind =>
    rw [note_of_done fun _ => rfl]
    show m.Mirrors (d.settle 0 none (.done (d.store.status child.thing))).1
    rw [Desk.settle_of_not_built d 0 none rfl]
    exact hm
  | freeIterator hfind =>
    rw [note_of_told hidle hreply rfl]
    exact hm.freeIterator h (hiterator hfind) reply.given
  | snapshot hfind =>
    obtain ⟨hgiven, hmirrors⟩ := hm.snapshot h (hdatabase hfind) fun u => hfresh .snapshot u rfl
    rw [note_of_handedOut hidle (hreply.trans hgiven)]
    exact hmirrors
  | releaseSnapshot howner hfind =>
    rw [note_of_told hidle hreply rfl]
    exact hm.freeSnapshot h (h.snapshots.valid.find?_eq_some_iff.mp hfind) reply.given
  | createBatch =>
    obtain ⟨hgiven, hmirrors⟩ := hm.createBatch h fun t => hfresh .batch t rfl
    rw [note_of_handedOut hidle (hreply.trans hgiven)]
    exact hmirrors
  | queue hmutation hfind =>
    rw [note_of_told hidle hreply rfl, done_of_mutation? hmutation, Mirror.queue, hm.batches, hfind]
    exact hm.setBatch h hfind _ reply.given
  | clearBatch hfind =>
    rw [note_of_told hidle hreply rfl, Mirror.done, hm.batches, hfind]
    exact hm.setBatch h hfind .empty reply.given
  | @freeBatch t batch hfind =>
    rw [note_of_told hidle hreply rfl]
    exact hm.freeBatch h t reply.given
  | installCallback level hlistening =>
    rw [note_of_done fun _ => rfl]
    obtain ⟨c, htells, hreflects⟩ := hm
    exact ⟨c, htells, hreflects.contents, hreflects.pinned, hreflects.tours, hreflects.batches⟩

end Note

end Mirror.Mirrors

end OrderedStore
