import OrderedStore.Proofs.Gateway.Mirror
import OrderedStore.Proofs.Gateway.Orderly
import OrderedStore.Proofs.Store.Isolation

/-!
# Mirrors reflect desks

A mirror reflects a desk by a chronicle of its store: what a token stands for on the desk is,
in the chronicle, what the mirror has for the token.  The sections go through what
orders do to all three.  A change of one thing of the store is seen through one token only,
because an orderly desk has no two tokens for the same thing.
-/

set_option autoImplicit false

namespace OrderedStore

namespace Mirror

/-- The mirror has for each token what the chronicle has for the thing that the token stands
for. -/
structure Reflects (m : Mirror) (c : Chronicle) (d : Desk) : Prop where
  contents : ∀ t, m.contents t = (d.databases.find? t).bind c.committed
  pinned : ∀ t, m.pinned t = (d.snapshots.find? t).bind fun child =>
    (c.views (.snapshot child.thing)).map fun view => ⟨child.owner, view.2⟩
  tours : ∀ t, m.tours t = (d.iterators.find? t).bind fun child =>
    (c.views (.iterator child.thing)).bind fun view =>
      (c.cursors child.thing).map fun cursor => ⟨child.owner, ⟨view.2, cursor⟩⟩
  batches : ∀ t, m.batches t = d.batches.find? t

/-- The mirror reflects the desk by a chronicle that tells its store. -/
def Mirrors (m : Mirror) (d : Desk) : Prop :=
  ∃ c : Chronicle, c.Tells d.store.volume d.store.roster ∧ m.Reflects c d

theorem mirrors_ofVolume {v : Volume} (h : v.WellFormed) (directives : Option String) :
    empty.Mirrors (.ofStore (.ofVolume v) directives) := by
  refine ⟨.empty, Chronicle.tells_empty h, ?_, ?_, ?_, ?_⟩ <;> exact fun _ => rfl

namespace Reflects

variable {m : Mirror} {c c' : Chronicle} {d : Desk}

/-- A store that is told by the same chronicle is seen the same way. -/
theorem withStore (h : m.Reflects c d) (s : Store) : m.Reflects c { d with store := s } :=
  ⟨h.contents, h.pinned, h.tours, h.batches⟩

/-! ## Databases -/

theorem hold (h : m.Reflects c d) (horderly : d.Orderly) {t : Token} {id : SessionId}
    (hheld : (t, id) ∈ d.databases.held) (k : Option Keyspace) :
    (m.hold t k).Reflects (c.hold id k) d := by
  refine ⟨fun u => ?_, h.pinned, h.tours, h.batches⟩
  show Function.update m.contents t k u = _
  rw [Function.update_apply]
  split
  · rename_i heq
    rw [heq, horderly.databases.find?_eq_some_iff.mpr hheld, Option.bind_some,
      Chronicle.committed_hold, if_pos rfl]
  · rename_i hne
    rw [h.contents]
    cases hfind : d.databases.find? u with
    | none => rfl
    | some id' =>
      rw [Option.bind_some, Option.bind_some, Chronicle.committed_hold, if_neg]
      rintro rfl
      exact hne (horderly.sole hheld (horderly.databases.find?_eq_some_iff.mp hfind))

/-- What a session without a token does is not seen. -/
theorem hold_other (h : m.Reflects c d) (hvalid : d.databases.Valid) {id : SessionId}
    (hnone : ∀ t, (t, id) ∉ d.databases.held) (k : Option Keyspace) :
    m.Reflects (c.hold id k) d := by
  refine ⟨fun u => ?_, h.pinned, h.tours, h.batches⟩
  rw [h.contents]
  cases hfind : d.databases.find? u with
  | none => rfl
  | some id' =>
    rw [Option.bind_some, Option.bind_some, Chronicle.committed_hold, if_neg]
    rintro rfl
    exact hnone u (hvalid.find?_eq_some_iff.mp hfind)

theorem give (h : m.Reflects c d) (hvalid : d.databases.Valid) {t : Token} {id : SessionId}
    (hzero : t ≠ 0) (hnew : t ∉ d.databases.issued) (hnone : ∀ t, (t, id) ∉ d.databases.held)
    (k : Option Keyspace) :
    (m.hold t k).Reflects (c.hold id k) { d with databases := d.databases.give t id } := by
  have hother := h.hold_other hvalid hnone k
  refine ⟨fun u => ?_, h.pinned, h.tours, h.batches⟩
  show Function.update m.contents t k u = ((d.databases.give t id).find? u).bind _
  rw [Function.update_apply, hvalid.find?_give hzero hnew]
  split
  · rw [Option.bind_some, Chronicle.committed_hold, if_pos rfl]
  · exact hother.contents u

/-! ## Snapshots -/

/-- What becomes of a snapshot without a token is not seen. -/
theorem see_other (h : m.Reflects c d) (hvalid : d.snapshots.Valid) {snapshot : SnapshotId}
    (hnone : ∀ t child, (t, child) ∈ d.snapshots.held → child.thing ≠ snapshot)
    (view : Option (SessionId × Keyspace)) : m.Reflects (c.see (.snapshot snapshot) view) d := by
  refine ⟨h.contents, fun u => ?_, fun u => ?_, h.batches⟩
  · rw [h.pinned]
    cases hfind : d.snapshots.find? u with
    | none => rfl
    | some child =>
      have hne := hnone u child (hvalid.find?_eq_some_iff.mp hfind)
      rw [Option.bind_some, Option.bind_some, Chronicle.views_see,
        if_neg fun heq => hne (Borrower.snapshot.inj heq)]
  · rw [h.tours]
    refine congrArg (Option.bind _) (funext fun child => ?_)
    rw [Chronicle.views_see, if_neg (by simp), Chronicle.cursors_see]

theorem pin (h : m.Reflects c d) (hvalid : d.snapshots.Valid) {t owner : Token}
    {snapshot : SnapshotId} (hzero : t ≠ 0) (hnew : t ∉ d.snapshots.issued)
    (hnone : ∀ t child, (t, child) ∈ d.snapshots.held → child.thing ≠ snapshot)
    (id : SessionId) (k : Keyspace) :
    (m.pin t (some ⟨owner, k⟩)).Reflects (c.see (.snapshot snapshot) (some (id, k)))
      { d with snapshots := d.snapshots.give t ⟨owner, snapshot⟩ } := by
  have hother := h.see_other hvalid hnone (some (id, k))
  refine ⟨h.contents, fun u => ?_, hother.tours, h.batches⟩
  show Function.update m.pinned t (some ⟨owner, k⟩) u =
    ((d.snapshots.give t ⟨owner, snapshot⟩).find? u).bind _
  rw [Function.update_apply, hvalid.find?_give hzero hnew]
  split
  · rw [Option.bind_some, Chronicle.views_see, if_pos rfl]
    rfl
  · exact hother.pinned u

theorem unpin (h : m.Reflects c d) (horderly : d.Orderly) {t : Token} {child : Child SnapshotId}
    (hheld : (t, child) ∈ d.snapshots.held) :
    (m.pin t none).Reflects (c.see (.snapshot child.thing) none)
      { d with snapshots := d.snapshots.strike fun u _ => u = t } := by
  have hvalid := horderly.snapshots.valid
  refine ⟨h.contents, fun u => ?_, fun u => ?_, h.batches⟩
  · show Function.update m.pinned t none u =
      ((d.snapshots.strike fun u _ => u = t).find? u).bind _
    rw [Function.update_apply, hvalid.find?_strike]
    split
    · rename_i heq
      rw [heq, hvalid.find?_eq_some_iff.mpr hheld, Option.filter_some, if_neg (by simp)]
      rfl
    · rename_i hne
      rw [h.pinned]
      cases hfind : d.snapshots.find? u with
      | none => rfl
      | some other =>
        have hother := hvalid.find?_eq_some_iff.mp hfind
        rw [Option.filter_some, if_pos (by simp [hne]), Option.bind_some, Option.bind_some,
          Chronicle.views_see, if_neg]
        exact fun heq => hne (horderly.snapshots.sole hother hheld (Borrower.snapshot.inj heq))
  · refine (h.tours u).trans (congrArg (Option.bind _) (funext fun child => ?_))
    rw [Chronicle.views_see, if_neg (by simp), Chronicle.cursors_see]

/-! ## Iterators -/

/-- What becomes of an iterator without a token is not seen. -/
theorem place_other (h : m.Reflects c d) (hvalid : d.iterators.Valid) {iterator : IteratorId}
    (hnone : ∀ t child, (t, child) ∈ d.iterators.held → child.thing ≠ iterator)
    (view : Option (SessionId × Keyspace)) (cursor : Option Cursor) :
    m.Reflects ((c.see (.iterator iterator) view).place iterator cursor) d := by
  refine ⟨h.contents, fun u => ?_, fun u => ?_, h.batches⟩
  · rw [h.pinned]
    refine congrArg (Option.bind _) (funext fun child => ?_)
    rw [Chronicle.views_place, Chronicle.views_see, if_neg (by simp)]
  · rw [h.tours]
    cases hfind : d.iterators.find? u with
    | none => rfl
    | some child =>
      have hne := hnone u child (hvalid.find?_eq_some_iff.mp hfind)
      rw [Option.bind_some, Option.bind_some, Chronicle.views_place, Chronicle.views_see,
        if_neg fun heq => hne (Borrower.iterator.inj heq), Chronicle.cursors_place, if_neg hne,
        Chronicle.cursors_see]

theorem walk (h : m.Reflects c d) (hvalid : d.iterators.Valid) {t owner : Token}
    {iterator : IteratorId} (hzero : t ≠ 0) (hnew : t ∉ d.iterators.issued)
    (hnone : ∀ t child, (t, child) ∈ d.iterators.held → child.thing ≠ iterator)
    (id : SessionId) (k : Keyspace) (cursor : Cursor) :
    (m.walk t (some ⟨owner, ⟨k, cursor⟩⟩)).Reflects
      ((c.see (.iterator iterator) (some (id, k))).place iterator (some cursor))
      { d with iterators := d.iterators.give t ⟨owner, iterator⟩ } := by
  have hother := h.place_other hvalid hnone (some (id, k)) (some cursor)
  refine ⟨h.contents, hother.pinned, fun u => ?_, h.batches⟩
  show Function.update m.tours t (some ⟨owner, ⟨k, cursor⟩⟩) u =
    ((d.iterators.give t ⟨owner, iterator⟩).find? u).bind _
  rw [Function.update_apply, hvalid.find?_give hzero hnew]
  split
  · rw [Option.bind_some, Chronicle.views_place, Chronicle.views_see, if_pos rfl,
      Option.bind_some, Chronicle.cursors_place, if_pos rfl]
    rfl
  · exact hother.tours u

theorem unwalk (h : m.Reflects c d) (horderly : d.Orderly) {t : Token} {child : Child IteratorId}
    (hheld : (t, child) ∈ d.iterators.held) :
    (m.walk t none).Reflects ((c.see (.iterator child.thing) none).place child.thing none)
      { d with iterators := d.iterators.strike fun u _ => u = t } := by
  have hvalid := horderly.iterators.valid
  refine ⟨h.contents, fun u => ?_, fun u => ?_, h.batches⟩
  · refine (h.pinned u).trans (congrArg (Option.bind _) (funext fun child => ?_))
    rw [Chronicle.views_place, Chronicle.views_see, if_neg (by simp)]
  · show Function.update m.tours t none u =
      ((d.iterators.strike fun u _ => u = t).find? u).bind _
    rw [Function.update_apply, hvalid.find?_strike]
    split
    · rename_i heq
      rw [heq, hvalid.find?_eq_some_iff.mpr hheld, Option.filter_some, if_neg (by simp)]
      rfl
    · rename_i hne
      rw [h.tours]
      cases hfind : d.iterators.find? u with
      | none => rfl
      | some other =>
        have hother := hvalid.find?_eq_some_iff.mp hfind
        have hthing : other.thing ≠ child.thing := fun heq =>
          hne (horderly.iterators.sole hother hheld heq)
        rw [Option.filter_some, if_pos (by simp [hne]), Option.bind_some, Option.bind_some,
          Chronicle.views_place, Chronicle.views_see,
          if_neg fun heq => hthing (Borrower.iterator.inj heq), Chronicle.cursors_place,
          if_neg hthing, Chronicle.cursors_see]

/-- The cursor of an iterator goes to another place. -/
theorem place (h : m.Reflects c d) (horderly : d.Orderly) {t : Token} {child : Child IteratorId}
    (hheld : (t, child) ∈ d.iterators.held) {id : SessionId} {k : Keyspace}
    (hview : c.views (.iterator child.thing) = some (id, k)) (cursor : Cursor) :
    (m.walk t (some ⟨child.owner, ⟨k, cursor⟩⟩)).Reflects
      (c.place child.thing (some cursor)) d := by
  have hvalid := horderly.iterators.valid
  refine ⟨h.contents, h.pinned, fun u => ?_, h.batches⟩
  show Function.update m.tours t (some ⟨child.owner, ⟨k, cursor⟩⟩) u = _
  rw [Function.update_apply]
  split
  · rename_i heq
    rw [heq, hvalid.find?_eq_some_iff.mpr hheld, Option.bind_some, Chronicle.views_place, hview,
      Option.bind_some, Chronicle.cursors_place, if_pos rfl]
    rfl
  · rename_i hne
    rw [h.tours]
    cases hfind : d.iterators.find? u with
    | none => rfl
    | some other =>
      have hother := hvalid.find?_eq_some_iff.mp hfind
      rw [Option.bind_some, Option.bind_some, Chronicle.views_place, Chronicle.cursors_place,
        if_neg fun heq => hne (horderly.iterators.sole hother hheld heq)]

/-! ## Closing -/

/-- Everything that was made through a token is struck off with it. -/
theorem close (h : m.Reflects c d) (horderly : d.Orderly) {t : Token} {id : SessionId}
    (hheld : (t, id) ∈ d.databases.held) (hcommitted : c'.committed = c.committed)
    (hsnapshots : ∀ snapshot, snapshot ∉ d.snapshots.madeThrough t →
      c'.views (.snapshot snapshot) = c.views (.snapshot snapshot))
    (hiterators : ∀ iterator, iterator ∉ d.iterators.madeThrough t →
      c'.views (.iterator iterator) = c.views (.iterator iterator) ∧
        c'.cursors iterator = c.cursors iterator) :
    (m.close t).Reflects (c'.hold id none) { d with
      databases := d.databases.strike fun u _ => u = t
      iterators := d.iterators.strike fun _ child => child.owner = t
      snapshots := d.snapshots.strike fun _ child => child.owner = t } := by
  refine ⟨fun u => ?_, fun u => ?_, fun u => ?_, h.batches⟩
  · show Function.update m.contents t none u =
      ((d.databases.strike fun u _ => u = t).find? u).bind _
    rw [Function.update_apply, horderly.databases.find?_strike]
    split
    · rename_i heq
      rw [heq, horderly.databases.find?_eq_some_iff.mpr hheld, Option.filter_some,
        if_neg (by simp)]
      rfl
    · rename_i hne
      rw [h.contents]
      cases hfind : d.databases.find? u with
      | none => rfl
      | some id' =>
        rw [Option.filter_some, if_pos (by simp [hne]), Option.bind_some, Option.bind_some,
          Chronicle.committed_hold, if_neg, hcommitted]
        rintro rfl
        exact hne (horderly.sole hheld (horderly.databases.find?_eq_some_iff.mp hfind))
  · have hvalid := horderly.snapshots.valid
    show (m.pinned u).filter _ =
      ((d.snapshots.strike fun _ child => child.owner = t).find? u).bind _
    rw [h.pinned, hvalid.find?_strike]
    cases hfind : d.snapshots.find? u with
    | none => rfl
    | some child =>
      have hmem := hvalid.find?_eq_some_iff.mp hfind
      by_cases howner : child.owner = t
      · rw [Option.filter_some, if_neg (by simp [howner]), Option.bind_some]
        cases c.views (.snapshot child.thing) <;> simp [howner]
      · have hkept := horderly.snapshots.not_madeThrough hmem howner
        rw [Option.filter_some, if_pos (by simp [howner]), Option.bind_some, Option.bind_some]
        show _ = (c'.views (.snapshot child.thing)).map _
        rw [hsnapshots _ hkept]
        cases c.views (.snapshot child.thing) <;> simp [howner]
  · have hvalid := horderly.iterators.valid
    show (m.tours u).filter _ =
      ((d.iterators.strike fun _ child => child.owner = t).find? u).bind _
    rw [h.tours, hvalid.find?_strike]
    cases hfind : d.iterators.find? u with
    | none => rfl
    | some child =>
      have hmem := hvalid.find?_eq_some_iff.mp hfind
      by_cases howner : child.owner = t
      · rw [Option.filter_some, if_neg (by simp [howner]), Option.bind_some]
        cases c.views (.iterator child.thing) with
        | none => rfl
        | some view => cases c.cursors child.thing <;> simp [howner]
      · have hkept := horderly.iterators.not_madeThrough hmem howner
        rw [Option.filter_some, if_pos (by simp [howner]), Option.bind_some, Option.bind_some]
        show _ = (c'.views (.iterator child.thing)).bind fun view =>
          (c'.cursors child.thing).map _
        rw [(hiterators _ hkept).1, (hiterators _ hkept).2]
        cases c.views (.iterator child.thing) with
        | none => rfl
        | some view => cases c.cursors child.thing <;> simp [howner]

/-! ## Batches -/

theorem withBatches (h : m.Reflects c d) {batches : Token → Option Batch} {l : Ledger Batch}
    (hbatches : ∀ t, batches t = l.find? t) :
    Reflects { m with batches := batches } c { d with batches := l } :=
  ⟨h.contents, h.pinned, h.tours, hbatches⟩

end Reflects

end Mirror

end OrderedStore
