import Mathlib.Algebra.BigOperators.Group.Finset.Piecewise
import Mathlib.Algebra.Order.BigOperators.Group.Finset
import OrderedStore.Proofs.Handle.Ledger

/-!
# The slots of a registry are accounted for

Every slot of a registry is in one of three conditions: something is in it, it waits on
the free list, or it has had its last generation.  What a slot has been through is its
`wear`, which is the number of things that have been taken out of it: its generation, and
one more if it is retired.  Taking a thing out wears one slot by one, and putting one in
wears nothing, so the wear of all slots is the number of all removals.

A retired slot has been worn through all generations, and a registry adds a slot only if
none is free.  So the slots never outnumber the things that were held at one time by more
than one for every round of generations among the removals.
-/

set_option autoImplicit false

namespace OrderedStore.Registry

variable {α : Type}

/-! ## Conditions of slots -/

/-- There is a slot at `index`, and nothing in it. -/
def Vacant (r : Registry α) (index : Nat) : Prop :=
  ∃ generation, r.slots[index]? = some ⟨generation, none⟩

theorem vacant_iff {r : Registry α} {index : Nat} :
    (r.slots[index]?).any (·.entry.isNone) = true ↔ r.Vacant index := by
  unfold Vacant
  cases hslot : r.slots[index]? with
  | none => simp
  | some slot =>
    obtain ⟨generation, entry⟩ := slot
    cases entry <;> simp

instance (r : Registry α) (index : Nat) : Decidable (r.Vacant index) :=
  decidable_of_iff _ vacant_iff

/-- The conditions that a slot can be in. -/
inductive Condition where
  | live
  | free
  | retired
  deriving DecidableEq, Repr

/-- The slot at `index` is in a condition. -/
def Is (r : Registry α) : Condition → Nat → Prop
  | .live, index => r.Occupied index ∧ index ∉ r.free
  | .free, index => r.Vacant index ∧ r.free.count index = 1
  | .retired, index =>
    r.Vacant index ∧ generationAt r.slots index = lastGeneration ∧ index ∉ r.free

instance (r : Registry α) (index : Nat) : Decidable (r.Is .retired index) :=
  inferInstanceAs (Decidable (_ ∧ _ ∧ _))

/-- The retired slots. -/
def retired (r : Registry α) : Finset Nat :=
  (Finset.range r.slots.size).filter fun index => r.Is .retired index

/-- No vacant slot is lost: it waits on the free list or has had its last generation. -/
def NoneLost (r : Registry α) : Prop :=
  ∀ {index : Nat}, r.Vacant index → index ∈ r.free ∨ generationAt r.slots index = lastGeneration

section Conditions

variable {r : Registry α} {index : Nat}

theorem vacant_congr {r' : Registry α} (hslot : r'.slots[index]? = r.slots[index]?) :
    r'.Vacant index ↔ r.Vacant index := by
  rw [Vacant, Vacant, hslot]

theorem Vacant.lt (hvacant : r.Vacant index) : index < r.slots.size := by
  obtain ⟨generation, hslot⟩ := hvacant
  exact (Array.getElem?_eq_some_iff.mp hslot).1

theorem Occupied.lt (hoccupied : r.Occupied index) : index < r.slots.size := by
  obtain ⟨generation, v, hslot⟩ := hoccupied
  exact (Array.getElem?_eq_some_iff.mp hslot).1

theorem Occupied.not_vacant (hoccupied : r.Occupied index) : ¬ r.Vacant index := by
  obtain ⟨generation, v, hslot⟩ := hoccupied
  rintro ⟨generation', hvacant⟩
  rw [hslot] at hvacant
  simp at hvacant

theorem occupied_or_vacant (hlt : index < r.slots.size) : r.Occupied index ∨ r.Vacant index := by
  obtain ⟨⟨generation, entry⟩, hslot⟩ : ∃ slot, r.slots[index]? = some slot :=
    ⟨_, Array.getElem?_eq_getElem hlt⟩
  cases entry with
  | none => exact Or.inr ⟨generation, hslot⟩
  | some v => exact Or.inl ⟨generation, v, hslot⟩

theorem WellFormed.vacant (h : r.WellFormed) (hmem : index ∈ r.free) : r.Vacant index := by
  obtain ⟨generation, hslot⟩ := h.vacant_of_free hmem
  exact ⟨generation + 1, hslot⟩

theorem is_live_iff (h : r.WellFormed) : r.Is .live index ↔ r.Occupied index :=
  ⟨And.left, fun hoccupied => ⟨hoccupied, not_mem_free_of_occupied h hoccupied⟩⟩

theorem is_free_iff (h : r.WellFormed) : r.Is .free index ↔ index ∈ r.free := by
  constructor
  · rintro ⟨_, hcount⟩
    exact List.count_pos_iff.mp (hcount ▸ Nat.one_pos)
  · exact fun hmem => ⟨h.vacant hmem, List.count_eq_one_of_mem h.free_nodup hmem⟩

theorem is_retired_iff (hlost : r.NoneLost) :
    r.Is .retired index ↔ r.Vacant index ∧ index ∉ r.free :=
  ⟨fun ⟨hvacant, _, hmem⟩ => ⟨hvacant, hmem⟩,
    fun ⟨hvacant, hmem⟩ => ⟨hvacant, (hlost hvacant).resolve_left hmem, hmem⟩⟩

/-- Every slot is in one condition. -/
theorem existsUnique_is (h : r.WellFormed) (hlost : r.NoneLost) (hlt : index < r.slots.size) :
    ∃! condition, r.Is condition index := by
  rcases occupied_or_vacant hlt with hoccupied | hvacant
  · refine ⟨.live, (is_live_iff h).mpr hoccupied, ?_⟩
    rintro (_ | _ | _) his
    · rfl
    · exact absurd his.1 hoccupied.not_vacant
    · exact absurd his.1 hoccupied.not_vacant
  · have hnot : ¬ r.Is .live index := fun his => his.1.not_vacant hvacant
    by_cases hmem : index ∈ r.free
    · refine ⟨.free, (is_free_iff h).mpr hmem, ?_⟩
      rintro (_ | _ | _) his
      · exact absurd his hnot
      · rfl
      · exact absurd hmem his.2.2
    · refine ⟨.retired, (is_retired_iff hlost).mpr ⟨hvacant, hmem⟩, ?_⟩
      rintro (_ | _ | _) his
      · exact absurd his hnot
      · exact absurd ((is_free_iff h).mp his) hmem
      · rfl

end Conditions

/-! ## Counting slots -/

theorem isSome_entryWithToken_iff {r : Registry α} {index : Nat} :
    (r.entryWithToken index).isSome = true ↔ r.Occupied index := by
  rw [Option.isSome_iff_exists]
  constructor
  · rintro ⟨⟨t, v⟩, hentry⟩
    exact (entryWithToken_eq_some_iff.mp hentry).occupied
  · rintro ⟨generation, v, hslot⟩
    exact ⟨_, entryWithToken_eq_some_iff.mpr ⟨generation, hslot, rfl⟩⟩

instance (r : Registry α) (index : Nat) : Decidable (r.Occupied index) :=
  decidable_of_iff ((r.entryWithToken index).isSome = true) isSome_entryWithToken_iff

section Counting

variable {r : Registry α}

theorem card_occupied (r : Registry α) :
    ((Finset.range r.slots.size).filter r.Occupied).card = r.size := by
  rw [size_eq_length_holdings, holdings, List.length_filterMap_eq_countP,
    List.countP_eq_length_filter]
  show ((List.range r.slots.size).filter fun index => decide (r.Occupied index)).length = _
  congr 2
  funext index
  rw [Bool.eq_iff_iff, decide_eq_true_iff]
  exact isSome_entryWithToken_iff.symm

theorem filter_not_occupied (h : r.WellFormed) (hlost : r.NoneLost) :
    ((Finset.range r.slots.size).filter fun index => ¬ r.Occupied index) =
      r.free.toFinset ∪ r.retired := by
  ext index
  simp only [retired, Finset.mem_filter, Finset.mem_range, Finset.mem_union, List.mem_toFinset,
    is_retired_iff hlost]
  constructor
  · rintro ⟨hlt, hnot⟩
    have hvacant := (occupied_or_vacant hlt).resolve_left hnot
    by_cases hmem : index ∈ r.free
    · exact Or.inl hmem
    · exact Or.inr ⟨hlt, hvacant, hmem⟩
  · rintro (hmem | ⟨hlt, hvacant, _⟩)
    · exact ⟨(h.vacant hmem).lt, fun hoccupied => hoccupied.not_vacant (h.vacant hmem)⟩
    · exact ⟨hlt, fun hoccupied => hoccupied.not_vacant hvacant⟩

/-- The slots are those with something in them, those on the free list and the retired
ones. -/
theorem size_slots_eq (h : r.WellFormed) (hlost : r.NoneLost) :
    r.slots.size = r.size + r.free.length + r.retired.card := by
  have hdisjoint : Disjoint r.free.toFinset r.retired := by
    rw [Finset.disjoint_left]
    intro index hmem hretired
    exact (Finset.mem_filter.mp hretired).2.2.2 (List.mem_toFinset.mp hmem)
  calc r.slots.size = (Finset.range r.slots.size).card := (Finset.card_range _).symm
    _ = r.size + ((Finset.range r.slots.size).filter fun index => ¬ r.Occupied index).card := by
      rw [← Finset.card_filter_add_card_filter_not r.Occupied, card_occupied]
    _ = r.size + r.free.length + r.retired.card := by
      rw [filter_not_occupied h hlost, Finset.card_union_of_disjoint hdisjoint,
        List.toFinset_card_of_nodup h.free_nodup, Nat.add_assoc]

end Counting

/-! ## Wear -/

/-- How often something has been taken out of the slot at `index`. -/
def wear (r : Registry α) (index : Nat) : Nat :=
  generationAt r.slots index + if r.Is .retired index then 1 else 0

/-- How often something has been taken out of any slot. -/
def totalWear (r : Registry α) : Nat := ∑ index ∈ Finset.range r.slots.size, r.wear index

theorem generationAt_eq {slots : Array (Slot α)} {index : Nat} {slot : Slot α}
    (hslot : slots[index]? = some slot) : generationAt slots index = slot.generation := by
  rw [generationAt, hslot]

theorem generationAt_congr {slots slots' : Array (Slot α)} {index : Nat}
    (hslot : slots'[index]? = slots[index]?) :
    generationAt slots' index = generationAt slots index := by
  rw [generationAt, generationAt, hslot]

section Wear

variable {r r' : Registry α} {index generation : Nat} {v : α}

theorem wear_of_not_retired (hnot : ¬ r.Is .retired index) :
    r.wear index = generationAt r.slots index := by
  rw [wear, if_neg hnot, Nat.add_zero]

theorem wear_of_none (hnone : r.slots[index]? = none) : r.wear index = 0 := by
  rw [wear_of_not_retired, generationAt, hnone]
  rintro ⟨⟨generation, hslot⟩, _⟩
  rw [hnone] at hslot
  simp at hslot

theorem wear_of_retired (his : r.Is .retired index) : r.wear index = Token.generations := by
  rw [wear, if_pos his, his.2.1]
  rfl

theorem wear_congr (hslot : r'.slots[index]? = r.slots[index]?)
    (hfree : index ∈ r'.free ↔ index ∈ r.free) : r'.wear index = r.wear index := by
  have hat := generationAt_congr hslot
  have his : r'.Is .retired index ↔ r.Is .retired index := by
    simp only [Is, vacant_congr hslot, hat, hfree]
  rw [wear, wear, hat, if_congr his rfl rfl]

/-- Places beyond the last slot have no wear, so they may be counted in. -/
theorem totalWear_eq_sum {n : Nat} (hle : r.slots.size ≤ n) :
    r.totalWear = ∑ index ∈ Finset.range n, r.wear index := by
  refine Finset.sum_subset (Finset.range_subset_range.mpr hle) fun index _ hnot => ?_
  refine wear_of_none (Array.getElem?_eq_none ?_)
  exact Nat.not_lt.mp fun hlt => hnot (Finset.mem_range.mpr hlt)

theorem totalWear_congr (hwear : ∀ index, r'.wear index = r.wear index) :
    r'.totalWear = r.totalWear := by
  rw [totalWear_eq_sum (Nat.le_max_left r'.slots.size r.slots.size),
    totalWear_eq_sum (Nat.le_max_right r'.slots.size r.slots.size)]
  exact Finset.sum_congr rfl fun index _ => hwear index

theorem totalWear_eq (r : Registry α) :
    r.totalWear =
      ∑ index ∈ Finset.range r.slots.size, generationAt r.slots index + r.retired.card := by
  simp only [totalWear, wear, retired, Finset.sum_add_distrib, Finset.card_filter]

/-- Every retired slot has been worn through all generations. -/
theorem card_retired_mul_le (r : Registry α) :
    r.retired.card * Token.generations ≤ r.totalWear := by
  have hworn : ∀ index ∈ r.retired, Token.generations ≤ r.wear index := fun index hmem =>
    (wear_of_retired (Finset.mem_filter.mp hmem).2).ge
  calc r.retired.card * Token.generations ≤ ∑ index ∈ r.retired, r.wear index :=
        Finset.card_nsmul_le_sum _ _ _ hworn
    _ ≤ r.totalWear := Finset.sum_le_sum_of_subset (Finset.filter_subset _ _)

/-- Putting a thing in wears nothing: the slot was not retired and keeps its generation. -/
theorem Filled.wear_eq (hfilled : Filled r r' index generation v) (j : Nat) :
    r'.wear j = r.wear j := by
  by_cases hj : j = index
  · subst hj
    have hoccupied : r'.Occupied j := ⟨generation, v, hfilled.slot⟩
    rw [wear_of_not_retired fun his => hoccupied.not_vacant his.1, generationAt_eq hfilled.slot]
    rcases hfilled.before with ⟨hvacant, hmem⟩ | ⟨hnone, rfl⟩
    · rw [wear_of_not_retired fun his => his.2.2 hmem, generationAt_eq hvacant]
    · rw [wear_of_none hnone]
  · refine wear_congr (hfilled.slot_of_ne hj) ?_
    rw [hfilled.mem_free_iff]
    exact and_iff_left hj

/-- A slot that is vacated waits for its next generation or has had its last one. -/
theorem vacated_cases (h : r.WellFormed)
    (hslot : r.slots[index]? = some ⟨generation, some v⟩) :
    ((r.vacate index).slots[index]? = some ⟨generation + 1, none⟩ ∧
        index ∈ (r.vacate index).free) ∨
      (generation = lastGeneration ∧ (r.vacate index).slots[index]? = some ⟨generation, none⟩ ∧
        index ∉ (r.vacate index).free) := by
  have hvacated := slot_vacate hslot
  have hfree := mem_free_vacate_iff r index index
  rw [generationAt_eq hslot] at hfree
  by_cases hlast : generation < lastGeneration
  · rw [if_pos hlast] at hvacated
    exact Or.inl ⟨hvacated, hfree.mpr (Or.inl ⟨rfl, hlast⟩)⟩
  · rw [if_neg hlast] at hvacated
    have hle : generation ≤ lastGeneration := h.generation_le hslot
    refine Or.inr ⟨Nat.le_antisymm hle (Nat.not_lt.mp hlast), hvacated, fun hmem => ?_⟩
    rcases hfree.mp hmem with ⟨_, hlt⟩ | hmem
    · exact hlast hlt
    · exact not_mem_free_of_occupied h ⟨generation, v, hslot⟩ hmem

/-- Taking a thing out wears its slot by one: the slot goes on to its next generation or
retires. -/
theorem wear_vacate (h : r.WellFormed) (hoccupied : r.Occupied index) (j : Nat) :
    (r.vacate index).wear j = r.wear j + if j = index then 1 else 0 := by
  by_cases hj : j = index
  · subst hj
    rw [if_pos rfl, wear_of_not_retired fun his => hoccupied.not_vacant his.1]
    obtain ⟨generation, v, hslot⟩ := hoccupied
    rw [generationAt_eq hslot]
    rcases vacated_cases h hslot with ⟨hvacated, hmem⟩ | ⟨hlast, hvacated, hmem⟩
    · rw [wear_of_not_retired fun his => his.2.2 hmem, generationAt_eq hvacated]
    · have his : (r.vacate j).Is .retired j :=
        ⟨⟨generation, hvacated⟩, (generationAt_eq hvacated).trans hlast, hmem⟩
      rw [wear_of_retired his, hlast]
      rfl
  · rw [if_neg hj, Nat.add_zero]
    refine wear_congr (by rw [getElem?_vacate, if_neg (Ne.symm hj)]) ?_
    rw [mem_free_vacate_iff]
    exact or_iff_right fun ⟨heq, _⟩ => hj heq

@[simp] theorem size_slots_vacate (r : Registry α) (index : Nat) :
    (r.vacate index).slots.size = r.slots.size :=
  Array.size_modify

theorem totalWear_vacate (h : r.WellFormed) (hoccupied : r.Occupied index) :
    (r.vacate index).totalWear = r.totalWear + 1 := by
  rw [totalWear, totalWear, size_slots_vacate,
    Finset.sum_congr rfl fun j _ => wear_vacate h hoccupied j, Finset.sum_add_distrib,
    Finset.sum_ite_eq', if_pos (Finset.mem_range.mpr hoccupied.lt)]

end Wear

/-! ## What operations keep -/

/-- The slots are accounted for, and show so many removals. -/
structure Worn (r : Registry α) (removed : Nat) : Prop where
  wellFormed : r.WellFormed
  noneLost : r.NoneLost
  totalWear_eq : r.totalWear = removed

namespace Worn

variable {r r' : Registry α} {removed index generation : Nat} {v : α}

theorem empty (kind : HandleKind) : Worn (Registry.empty kind : Registry α) 0 where
  wellFormed := wellFormed_empty kind
  noneLost := by
    rintro index ⟨generation, hslot⟩
    simp [Registry.empty] at hslot
  totalWear_eq := rfl

theorem filled (h : Worn r removed) (hfilled : Filled r r' index generation v)
    (h' : r'.WellFormed) : Worn r' removed := by
  refine ⟨h', fun {j} hvacant => ?_, (totalWear_congr hfilled.wear_eq).trans h.totalWear_eq⟩
  have hj : j ≠ index := by
    rintro rfl
    exact Occupied.not_vacant ⟨generation, v, hfilled.slot⟩ hvacant
  have hslot := hfilled.slot_of_ne hj
  rw [hfilled.mem_free_iff, generationAt_congr hslot]
  exact (h.noneLost ((vacant_congr hslot).mp hvacant)).imp_left fun hmem => ⟨hmem, hj⟩

theorem vacate (h : Worn r removed) (hoccupied : r.Occupied index) :
    Worn (r.vacate index) (removed + 1) := by
  refine ⟨h.wellFormed.vacate hoccupied, fun {j} hvacant => ?_,
    (totalWear_vacate h.wellFormed hoccupied).trans (congrArg (· + 1) h.totalWear_eq)⟩
  by_cases hj : j = index
  · subst hj
    obtain ⟨generation, w, hslot⟩ := hoccupied
    rcases vacated_cases h.wellFormed hslot with ⟨_, hmem⟩ | ⟨hlast, hvacated, _⟩
    · exact Or.inl hmem
    · exact Or.inr ((generationAt_eq hvacated).trans hlast)
  · have hslot : (r.vacate index).slots[j]? = r.slots[j]? := by
      rw [getElem?_vacate, if_neg (Ne.symm hj)]
    rw [mem_free_vacate_iff, generationAt_congr hslot]
    exact (h.noneLost ((vacant_congr hslot).mp hvacant)).imp_left Or.inr

theorem foldl_vacate (h : Worn r removed) (indices : List Nat) (hnodup : indices.Nodup)
    (hoccupied : ∀ index ∈ indices, r.Occupied index) :
    Worn (indices.foldl Registry.vacate r) (removed + indices.length) := by
  induction indices generalizing r removed with
  | nil => exact h
  | cons index rest ih =>
    obtain ⟨hnotmem, hnodup⟩ := List.nodup_cons.mp hnodup
    have hrest : ∀ j ∈ rest, (r.vacate index).Occupied j := fun j hmem =>
      (hoccupied j (List.mem_cons_of_mem _ hmem)).vacate fun heq => hnotmem (heq ▸ hmem)
    have hworn := ih (h.vacate (hoccupied index List.mem_cons_self)) hnodup hrest
    rwa [List.length_cons, Nat.add_comm rest.length, ← Nat.add_assoc]

/-- A registry without a free slot has no more slots than things, but for the retired
ones. -/
theorem size_slots_le (h : Worn r removed) (hfree : r.free = []) :
    r.slots.size ≤ r.size + removed / Token.generations := by
  rw [size_slots_eq h.wellFormed h.noneLost, hfree, List.length_nil, Nat.add_zero]
  refine Nat.add_le_add_left ((Nat.le_div_iff_mul_le (by decide)).mpr ?_) r.size
  rw [← h.totalWear_eq]
  exact card_retired_mul_le r

end Worn

/-- The slots are accounted for by so many removals and by a number of things that have
been held at one time. -/
structure Accounts (r : Registry α) (removed peak : Nat) : Prop extends Worn r removed where
  size_le : r.size ≤ peak
  slots_le : r.slots.size ≤ peak + removed / Token.generations

theorem size_insert_of_free {r : Registry α} (hfree : r.free ≠ []) (v : α) :
    (r.insert v).1.slots.size = r.slots.size := by
  obtain ⟨kind, slots, free⟩ := r
  cases free with
  | nil => exact absurd rfl hfree
  | cons index rest => exact Array.size_modify

theorem free_insert_of_nil {r : Registry α} (hfree : r.free = []) (v : α) :
    (r.insert v).1.free = [] := by
  obtain ⟨kind, slots, free⟩ := r
  obtain rfl : free = [] := hfree
  rw [insert]
  split <;> rfl

theorem size_slots_foldl_vacate (r : Registry α) (indices : List Nat) :
    (indices.foldl vacate r).slots.size = r.slots.size := by
  induction indices generalizing r with
  | nil => rfl
  | cons index rest ih => rw [List.foldl_cons, ih, size_slots_vacate]

namespace Accounts

variable {r : Registry α} {removed peak : Nat}

theorem empty (kind : HandleKind) : Accounts (Registry.empty kind : Registry α) 0 0 where
  toWorn := .empty kind
  size_le := Nat.le_refl 0
  slots_le := Nat.zero_le _

theorem mono {peak' : Nat} (h : Accounts r removed peak) (hle : peak ≤ peak') :
    Accounts r removed peak' :=
  ⟨h.toWorn, h.size_le.trans hle, h.slots_le.trans (Nat.add_le_add_right hle _)⟩

/-- A slot is added only if none is free, and then every slot has something in it or is
retired. -/
theorem insert (h : Accounts r removed peak) (v : α) :
    Accounts (r.insert v).1 removed (max peak (r.insert v).1.size) := by
  have hworn : Worn (r.insert v).1 removed := by
    rcases insert_cases h.wellFormed v with ⟨r', index, generation, heq, hfilled, h'⟩ | ⟨heq, _⟩
    · rw [heq]
      exact h.toWorn.filled hfilled h'
    · rw [heq]
      exact h.toWorn
  refine ⟨hworn, Nat.le_max_right _ _, ?_⟩
  by_cases hfree : r.free = []
  -- The free list stays empty, so the bound can be read off the registry as it is now.
  · have hle := hworn.size_slots_le (free_insert_of_nil hfree v)
    exact hle.trans (Nat.add_le_add_right (Nat.le_max_right _ _) _)
  · rw [size_insert_of_free hfree]
    exact h.slots_le.trans (Nat.add_le_add_right (Nat.le_max_left _ _) _)

theorem foldl_vacate (h : Accounts r removed peak) (indices : List Nat) (hnodup : indices.Nodup)
    (hoccupied : ∀ index ∈ indices, r.Occupied index) :
    Accounts (indices.foldl Registry.vacate r) (removed + indices.length)
      (max peak (indices.foldl Registry.vacate r).size) := by
  refine ⟨h.toWorn.foldl_vacate indices hnodup hoccupied, Nat.le_max_right _ _, ?_⟩
  rw [size_slots_foldl_vacate]
  exact h.slots_le.trans (Nat.add_le_add (Nat.le_max_left _ _)
    (Nat.div_le_div_right (Nat.le_add_right _ _)))

end Accounts

/-! ## Runs -/

/-- How many things an operation has taken out. -/
def takenOut : Operation α × Result α → Nat
  | (.remove _, .thing (.ok _)) => 1
  | (_, .things removed) => removed.length
  | _ => 0

/-- How many things have been taken out in all. -/
def removals : List (Operation α × Result α) → Nat
  | [] => 0
  | entry :: history => takenOut entry + removals history

/-- The greatest number of things that are held at one time, from a registry on through
all operations. -/
def peak (r : Registry α) : List (Operation α) → Nat
  | [] => r.size
  | operation :: rest => max r.size ((r.perform operation).1.peak rest)

theorem size_le_peak (r : Registry α) (operations : List (Operation α)) :
    r.size ≤ r.peak operations := by
  cases operations with
  | nil => exact Nat.le_refl _
  | cons operation rest => exact Nat.le_max_left _ _

/-- One operation keeps the account. -/
theorem Accounts.perform {r : Registry α} {removed peak : Nat} (h : Accounts r removed peak)
    (operation : Operation α) :
    Accounts (r.perform operation).1 (removed + takenOut (operation, (r.perform operation).2))
      (max peak (r.perform operation).1.size) := by
  cases operation with
  | insert v => exact h.insert v
  | get t => exact h.mono (Nat.le_max_left _ _)
  | remove t =>
    rcases locate_cases h.wellFormed t with ⟨index, v, hat, hlocate⟩ | ⟨_, hlocate⟩
    · simp only [Registry.perform, remove, hlocate, takenOut]
      refine h.foldl_vacate [index] (List.nodup_singleton index) fun j hmem => ?_
      rw [List.mem_singleton.mp hmem]
      exact hat.occupied
    · simp only [Registry.perform, remove, hlocate, takenOut, Nat.add_zero]
      exact h.mono (Nat.le_max_left _ _)
  | removeWhere p =>
    simp only [Registry.perform, takenOut, length_removeWhere]
    exact h.foldl_vacate (r.matching p) (nodup_matching r p) fun _ => occupied_of_mem_matching
  | size => exact h.mono (Nat.le_max_left _ _)

/-- So does a whole run. -/
theorem Accounts.run {r : Registry α} {removed peak : Nat} (h : Accounts r removed peak)
    (operations : List (Operation α)) :
    Accounts (r.run operations).1 (removed + removals (r.run operations).2)
      (max peak (r.peak operations)) := by
  induction operations generalizing r removed peak with
  | nil => exact h.mono (Nat.le_max_left _ _)
  | cons operation rest ih =>
    have hrest := ih (h.perform operation)
    rw [Nat.add_assoc] at hrest
    refine hrest.mono (Nat.max_le.mpr ⟨Nat.max_le.mpr ⟨Nat.le_max_left _ _, ?_⟩, ?_⟩)
    · exact (size_le_peak _ rest).trans ((Nat.le_max_right _ _).trans (Nat.le_max_right _ _))
    · exact (Nat.le_max_right _ _).trans (Nat.le_max_right _ _)

/-- What the slots of a registry tell about so many removals and a number of things that
were held at one time. -/
structure Tally (kind : HandleKind) (r : Registry α) (removed peak : Nat) : Prop where
  existsUnique_is : ∀ index < r.slots.size, ∃! condition, r.Is condition index
  free_is : ∀ index ∈ r.free, r.Is .free index
  size_slots_eq : r.slots.size = r.size + r.free.length + r.retired.card
  generations_eq :
    ∑ index ∈ Finset.range r.slots.size, generationAt r.slots index + r.retired.card = removed
  size_slots_le : r.slots.size ≤ peak + removed / 2 ^ 24
  insert_error_iff : ∀ (v : α) (fault : HandleFault), (r.insert v).2 = .error fault ↔
    fault = .exhausted kind ∧ r.free = [] ∧ r.slots.size = 2 ^ 32 - 1
  insert_error : ∀ (v : α) (fault : HandleFault), (r.insert v).2 = .error fault →
    (r.insert v).1 = r

theorem insert_error_iff {r : Registry α} (h : r.WellFormed) (v : α) (fault : HandleFault) :
    (r.insert v).2 = .error fault ↔
      fault = .exhausted r.kind ∧ r.free = [] ∧ r.slots.size = slotLimit := by
  constructor
  · intro herror
    rcases insert_cases h v with ⟨r', index, generation, heq, _⟩ | ⟨heq, hfull⟩
    · rw [heq] at herror
      simp at herror
    · rw [heq] at herror
      exact ⟨(Except.error.inj herror).symm, hfull⟩
  · obtain ⟨kind, slots, free⟩ := r
    rintro ⟨rfl, hfree, hsize⟩
    obtain rfl : free = [] := hfree
    have hnot : ¬ slots.size < slotLimit := (show slots.size = slotLimit from hsize).not_lt
    rw [insert, if_neg hnot]

theorem Accounts.tally {r : Registry α} {removed peak : Nat} (h : Accounts r removed peak) :
    Tally r.kind r removed peak where
  existsUnique_is _ hlt := Registry.existsUnique_is h.wellFormed h.noneLost hlt
  free_is _ hmem := (is_free_iff h.wellFormed).mpr hmem
  size_slots_eq := Registry.size_slots_eq h.wellFormed h.noneLost
  generations_eq := (Registry.totalWear_eq r).symm.trans h.totalWear_eq
  size_slots_le := h.slots_le
  insert_error_iff := Registry.insert_error_iff h.wellFormed
  insert_error v fault herror := by
    rcases insert_cases h.wellFormed v with ⟨r', index, generation, heq, _⟩ | ⟨heq, _⟩
    · rw [heq] at herror
      simp at herror
    · rw [heq]

/-- After every sequence of operations each slot is live, free or retired, the generations
and the retired slots together count the things that have been removed, and the slots
number at most the things that were held at one time and one for every 2^24 removals. -/
theorem slots_accounted_for (kind : HandleKind) (operations : List (Operation α)) :
    Tally kind ((empty kind).run operations).1 (removals ((empty kind).run operations).2)
      ((empty kind).peak operations) := by
  have haccounts := (Accounts.empty (α := α) kind).run operations
  rw [Nat.zero_add, Nat.zero_max] at haccounts
  have hkind := ((Ledger.describes_empty (α := α) kind).run operations).kind_eq
  have htally := haccounts.tally
  rwa [hkind] at htally

end OrderedStore.Registry
