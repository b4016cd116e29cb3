import OrderedStore.Proofs.Handle.Registry

/-!
# What the operations of a registry change

Each operation keeps the invariant and the kind, and is described by what it does to the
two predicates of a registry.  Adding a thing makes one token, which has never been
issued before, stand for it; removing things makes exactly their tokens stand for
nothing, and those tokens remain issued; changing a thing leaves its token.
-/

set_option autoImplicit false

namespace OrderedStore.Registry

variable {α : Type}

/-! ## The empty registry -/

theorem wellFormed_empty (kind : HandleKind) : (empty kind : Registry α).WellFormed where
  size_le := by simp [empty]
  generation_le := by simp [empty]
  free_nodup := by simp [empty]
  vacant_of_free := by simp [empty]

theorem not_holds_empty {kind : HandleKind} {t : Token} {v : α} :
    ¬ (empty kind : Registry α).Holds t v := by
  rintro ⟨index, generation, hslot, _⟩
  simp [empty] at hslot

theorem not_issued_empty {kind : HandleKind} {t : Token} :
    ¬ (empty kind : Registry α).Issued t := by
  rintro ⟨index, slot, generation, hslot, _⟩
  simp [empty] at hslot

/-! ## Adding -/

/-- The thing `v` has been added under the token `t`. -/
structure Inserted (r r' : Registry α) (t : Token) (v : α) : Prop where
  wellFormed : r'.WellFormed
  kind_eq : r'.kind = r.kind
  fresh : ¬ r.Issued t
  issued_iff : ∀ u, r'.Issued u ↔ u = t ∨ r.Issued u
  holds_iff : ∀ u w, r'.Holds u w ↔ u = t ∧ w = v ∨ r.Holds u w

/-- Both ways of adding a thing fill one slot: a vacant one off the free list, or the
next one in its first generation. -/
structure Filled (r r' : Registry α) (index generation : Nat) (v : α) : Prop where
  kind_eq : r'.kind = r.kind
  slots_eq : ∀ j : Nat, r'.slots[j]? =
    if j = index then some ⟨generation, some v⟩ else r.slots[j]?
  mem_free_iff : ∀ j, j ∈ r'.free ↔ j ∈ r.free ∧ j ≠ index
  before : r.slots[index]? = some ⟨generation, none⟩ ∧ index ∈ r.free ∨
    r.slots[index]? = none ∧ generation = 0

namespace Filled

variable {r r' : Registry α} {index generation : Nat} {v : α}

theorem slot (hfilled : Filled r r' index generation v) :
    r'.slots[index]? = some ⟨generation, some v⟩ := by
  rw [hfilled.slots_eq, if_pos rfl]

theorem slot_of_ne (hfilled : Filled r r' index generation v) {j : Nat} (hj : j ≠ index) :
    r'.slots[j]? = r.slots[j]? := by
  rw [hfilled.slots_eq, if_neg hj]

theorem wellFormed (hfilled : Filled r r' index generation v) (h : r.WellFormed)
    (hsize : r'.slots.size ≤ slotLimit) (hnodup : r'.free.Nodup) : r'.WellFormed := by
  refine ⟨hsize, ?_, hnodup, ?_⟩
  · intro j slot hslot
    rw [hfilled.slots_eq] at hslot
    split at hslot
    · obtain rfl := Option.some.inj hslot
      rcases hfilled.before with ⟨hvacant, _⟩ | ⟨_, rfl⟩
      · have hle := h.generation_le hvacant
        exact hle
      · exact Nat.zero_le _
    · exact h.generation_le hslot
  · intro j hmem
    obtain ⟨hmem, hj⟩ := (hfilled.mem_free_iff j).mp hmem
    obtain ⟨g, hvacant⟩ := h.vacant_of_free hmem
    exact ⟨g, (hfilled.slot_of_ne hj).trans hvacant⟩

/-- Nothing was in the slot before. -/
theorem not_occupied (hfilled : Filled r r' index generation v) {g : Nat} {w : α} :
    r.slots[index]? ≠ some ⟨g, some w⟩ := by
  intro hslot
  rcases hfilled.before with ⟨hvacant, _⟩ | ⟨hnone, _⟩
  · rw [hvacant] at hslot
    simp at hslot
  · rw [hnone] at hslot
    simp at hslot

/-- The slot's generation has not been used: a slot off the free list is one generation
ahead of its last token. -/
theorem fresh (hfilled : Filled r r' index generation v) (h : r.WellFormed)
    (h' : r'.WellFormed) : ¬ r.Issued (Token.make r.kind generation index) := by
  rintro ⟨j, slot, g, hslot, hmake, hg⟩
  have hlt := h.generation_lt hslot
  obtain ⟨rfl, rfl⟩ := Token.make_inj (h'.generation_lt hfilled.slot)
    (h'.index_lt hfilled.slot) (by omega) (h.index_lt hslot) hmake
  rcases hfilled.before with ⟨hvacant, hmem⟩ | ⟨hnone, _⟩
  · rw [hvacant] at hslot
    obtain rfl := Option.some.inj hslot
    rcases hg with hg | ⟨_, hg⟩
    · exact absurd hg (Nat.lt_irrefl _)
    · exact hg hmem
  · rw [hnone] at hslot
    simp at hslot

theorem issued_iff (hfilled : Filled r r' index generation v) (u : Token) :
    r'.Issued u ↔ u = Token.make r.kind generation index ∨ r.Issued u := by
  constructor
  · rintro ⟨j, slot, g, hslot, rfl, hg⟩
    rw [hfilled.kind_eq]
    by_cases hj : j = index
    · subst hj
      obtain rfl := Option.some.inj (hfilled.slot.symm.trans hslot)
      rcases hg with hg | ⟨rfl, _⟩
      -- An earlier generation of the slot: only a slot off the free list has one.
      · rcases hfilled.before with ⟨hvacant, _⟩ | ⟨_, hzero⟩
        · exact Or.inr ⟨j, _, g, hvacant, rfl, Or.inl hg⟩
        · subst hzero
          exact absurd hg (Nat.not_lt_zero _)
      · exact Or.inl rfl
    · rw [hfilled.slot_of_ne hj] at hslot
      refine Or.inr ⟨j, slot, g, hslot, rfl, hg.imp id fun hg => ⟨hg.1, fun hmem => ?_⟩⟩
      exact hg.2 ((hfilled.mem_free_iff j).mpr ⟨hmem, hj⟩)
  · rintro (rfl | ⟨j, slot, g, hslot, rfl, hg⟩)
    · refine ⟨index, _, generation, hfilled.slot, by rw [hfilled.kind_eq],
        Or.inr ⟨rfl, fun hmem => ?_⟩⟩
      exact ((hfilled.mem_free_iff index).mp hmem).2 rfl
    · by_cases hj : j = index
      · subst hj
        rcases hfilled.before with ⟨hvacant, hmem⟩ | ⟨hnone, _⟩
        · rw [hvacant] at hslot
          obtain rfl := Option.some.inj hslot
          rcases hg with hg | ⟨_, hg⟩
          · exact ⟨j, _, g, hfilled.slot, by rw [hfilled.kind_eq], Or.inl hg⟩
          · exact absurd hmem hg
        · rw [hnone] at hslot
          simp at hslot
      · refine ⟨j, slot, g, (hfilled.slot_of_ne hj).trans hslot, by rw [hfilled.kind_eq], ?_⟩
        exact hg.imp id fun hg => ⟨hg.1, fun hmem => hg.2 ((hfilled.mem_free_iff j).mp hmem).1⟩

theorem holds_iff (hfilled : Filled r r' index generation v) (u : Token) (w : α) :
    r'.Holds u w ↔ u = Token.make r.kind generation index ∧ w = v ∨ r.Holds u w := by
  constructor
  · rintro ⟨j, g, hslot, rfl⟩
    rw [hfilled.slots_eq] at hslot
    rw [hfilled.kind_eq]
    by_cases hj : j = index
    · rw [if_pos hj] at hslot
      simp only [Option.some.injEq, Slot.mk.injEq] at hslot
      obtain ⟨rfl, rfl⟩ := hslot
      exact Or.inl ⟨by rw [hj], rfl⟩
    · rw [if_neg hj] at hslot
      exact Or.inr ⟨j, g, hslot, rfl⟩
  · rintro (⟨rfl, rfl⟩ | ⟨j, g, hslot, rfl⟩)
    · exact ⟨index, generation, hfilled.slot, by rw [hfilled.kind_eq]⟩
    · have hj : j ≠ index := by
        rintro rfl
        exact hfilled.not_occupied hslot
      exact ⟨j, g, (hfilled.slot_of_ne hj).trans hslot, by rw [hfilled.kind_eq]⟩

theorem inserted (hfilled : Filled r r' index generation v) (h : r.WellFormed)
    (h' : r'.WellFormed) : Inserted r r' (Token.make r.kind generation index) v where
  wellFormed := h'
  kind_eq := hfilled.kind_eq
  fresh := hfilled.fresh h h'
  issued_iff := hfilled.issued_iff
  holds_iff := hfilled.holds_iff

end Filled

/-- Adding fills a slot and gives its token, or all slots are taken and nothing changes. -/
theorem insert_cases {r : Registry α} (h : r.WellFormed) (v : α) :
    (∃ r' index generation, r.insert v = (r', .ok (Token.make r.kind generation index)) ∧
        Filled r r' index generation v ∧ r'.WellFormed) ∨
      (r.insert v = (r, .error (.exhausted r.kind)) ∧ r.free = [] ∧
        r.slots.size = slotLimit) := by
  obtain ⟨kind, slots, free⟩ := r
  cases free with
  | cons index rest =>
    obtain ⟨generation, hvacant⟩ := h.vacant_of_free List.mem_cons_self
    obtain ⟨hnotmem, hnodup⟩ := List.nodup_cons.mp h.free_nodup
    have hat : generationAt slots index = generation + 1 := by simp [generationAt, hvacant]
    have hfilled : Filled ⟨kind, slots, index :: rest⟩
        ⟨kind, slots.modify index (Slot.fill v), rest⟩ index (generation + 1) v := by
      refine ⟨rfl, ?_, ?_, Or.inl ⟨hvacant, List.mem_cons_self⟩⟩
      · intro j
        simp only [Array.getElem?_modify]
        by_cases hj : j = index
        · subst hj
          simp [hvacant, Slot.fill]
        · simp [hj, Ne.symm hj]
      · intro j
        constructor
        · exact fun hmem => ⟨List.mem_cons_of_mem _ hmem, fun heq => hnotmem (heq ▸ hmem)⟩
        · rintro ⟨hmem, hj⟩
          exact (List.mem_cons.mp hmem).resolve_left hj
    have h' := hfilled.wellFormed h (by simpa using h.size_le) hnodup
    exact Or.inl ⟨_, _, _, by rw [insert, hat], hfilled, h'⟩
  | nil =>
    by_cases hsize : slots.size < slotLimit
    · have hfilled : Filled ⟨kind, slots, []⟩ ⟨kind, slots.push ⟨0, some v⟩, []⟩
          slots.size 0 v := by
        refine ⟨rfl, ?_, by simp, Or.inr ⟨by simp, rfl⟩⟩
        intro j
        rw [Array.getElem?_push]
      have h' := hfilled.wellFormed h (by simpa using Nat.succ_le_of_lt hsize) List.nodup_nil
      exact Or.inl ⟨_, _, _, by rw [insert, if_pos hsize], hfilled, h'⟩
    · exact Or.inr ⟨by rw [insert, if_neg hsize], rfl,
        Nat.le_antisymm h.size_le (Nat.not_lt.mp hsize)⟩

/-- Adding succeeds under a fresh token, or all slots are taken and nothing changes. -/
theorem insert_spec {r : Registry α} (h : r.WellFormed) (v : α) :
    (∃ r' t, r.insert v = (r', .ok t) ∧ Inserted r r' t v) ∨
      (r.insert v = (r, .error (.exhausted r.kind)) ∧ r.free = [] ∧
        r.slots.size = slotLimit) := by
  rcases insert_cases h v with ⟨r', index, generation, heq, hfilled, h'⟩ | hfull
  · exact Or.inl ⟨r', _, heq, hfilled.inserted h h'⟩
  · exact Or.inr hfull

/-! ## Removing -/

theorem kind_vacate (r : Registry α) (index : Nat) : (r.vacate index).kind = r.kind := rfl

theorem getElem?_vacate (r : Registry α) (index j : Nat) :
    (r.vacate index).slots[j]? =
      if index = j then (r.slots[j]?).map Slot.vacate else r.slots[j]? :=
  Array.getElem?_modify

theorem mem_free_vacate_iff (r : Registry α) (index j : Nat) :
    j ∈ (r.vacate index).free ↔
      j = index ∧ generationAt r.slots index < lastGeneration ∨ j ∈ r.free := by
  obtain ⟨kind, slots, free⟩ := r
  by_cases hreusable : generationAt slots index < lastGeneration <;>
    simp [vacate, hreusable]

theorem holdsAt_vacate_iff {r : Registry α} {index j : Nat} {t : Token} {v : α} :
    (r.vacate index).HoldsAt j t v ↔ r.HoldsAt j t v ∧ j ≠ index := by
  unfold HoldsAt
  rw [getElem?_vacate, kind_vacate]
  by_cases hj : index = j
  · subst hj
    simp [Slot.vacate]
  · simp [hj, Ne.symm hj]

/-- What is known of an occupied slot that is vacated. -/
theorem slot_vacate {r : Registry α} {index generation : Nat} {v : α}
    (hslot : r.slots[index]? = some ⟨generation, some v⟩) :
    (r.vacate index).slots[index]? =
      some ⟨if generation < lastGeneration then generation + 1 else generation, none⟩ := by
  rw [getElem?_vacate, if_pos rfl, hslot]
  rfl

theorem Occupied.vacate {r : Registry α} {index j : Nat} (h : r.Occupied j) (hj : j ≠ index) :
    (r.vacate index).Occupied j := by
  obtain ⟨generation, v, hslot⟩ := h
  refine ⟨generation, v, ?_⟩
  rw [getElem?_vacate, if_neg (Ne.symm hj)]
  exact hslot

theorem WellFormed.vacate {r : Registry α} (h : r.WellFormed) {index : Nat}
    (hoccupied : r.Occupied index) : (r.vacate index).WellFormed := by
  have hnotmem := not_mem_free_of_occupied h hoccupied
  obtain ⟨generation, v, hslot⟩ := hoccupied
  have hvacated := slot_vacate hslot
  have hother : ∀ {j : Nat}, j ≠ index → (r.vacate index).slots[j]? = r.slots[j]? := by
    intro j hj
    rw [getElem?_vacate, if_neg (Ne.symm hj)]
  constructor
  case size_le =>
    simpa [Registry.vacate] using h.size_le
  case generation_le =>
    intro j slot hj
    by_cases heq : j = index
    · subst heq
      rw [hvacated] at hj
      obtain rfl := Option.some.inj hj
      have hle : generation ≤ lastGeneration := h.generation_le hslot
      dsimp only
      split <;> omega
    · rw [hother heq] at hj
      exact h.generation_le hj
  case free_nodup =>
    simp only [Registry.vacate]
    split
    · exact List.nodup_cons.mpr ⟨hnotmem, h.free_nodup⟩
    · exact h.free_nodup
  case vacant_of_free =>
    intro j hmem
    rcases (mem_free_vacate_iff r index j).mp hmem with ⟨rfl, hlast⟩ | hmem
    · rw [generationAt, hslot] at hlast
      exact ⟨generation, by rw [hvacated, if_pos hlast]⟩
    · have heq : j ≠ index := fun heq => hnotmem (heq ▸ hmem)
      rw [hother heq]
      exact h.vacant_of_free hmem

/-- A token that has been issued stays so, and vacating a slot issues none: a slot that
goes on to its next generation waits for it on the free list. -/
theorem issued_vacate_iff {r : Registry α} (h : r.WellFormed) {index : Nat}
    (hoccupied : r.Occupied index) {t : Token} :
    (r.vacate index).Issued t ↔ r.Issued t := by
  have hnotmem := not_mem_free_of_occupied h hoccupied
  obtain ⟨generation, v, hslot⟩ := hoccupied
  have hvacated := slot_vacate hslot
  have hat : generationAt r.slots index = generation := by simp [generationAt, hslot]
  constructor
  · rintro ⟨j, slot, g, hj, rfl, hg⟩
    by_cases heq : j = index
    · subst heq
      rw [hvacated] at hj
      obtain rfl := Option.some.inj hj
      refine ⟨j, _, g, hslot, rfl, ?_⟩
      rw [mem_free_vacate_iff, hat] at hg
      by_cases hlast : generation < lastGeneration
      · simp only [hlast, if_true, and_self, true_or, not_true_eq_false, and_false,
          or_false] at hg
        rcases Nat.lt_succ_iff_lt_or_eq.mp hg with hg | hg
        · exact Or.inl hg
        · exact Or.inr ⟨hg, hnotmem⟩
      · simp only [hlast, if_false] at hg
        exact hg.imp id fun hg => ⟨hg.1, hnotmem⟩
    · rw [getElem?_vacate, if_neg (Ne.symm heq)] at hj
      refine ⟨j, slot, g, hj, rfl, hg.imp id fun hg => ⟨hg.1, fun hmem => ?_⟩⟩
      exact hg.2 ((mem_free_vacate_iff r index j).mpr (Or.inr hmem))
  · rintro ⟨j, slot, g, hj, rfl, hg⟩
    by_cases heq : j = index
    · subst heq
      rw [hslot] at hj
      obtain rfl := Option.some.inj hj
      refine ⟨j, _, g, hvacated, rfl, ?_⟩
      rw [mem_free_vacate_iff, hat]
      by_cases hlast : generation < lastGeneration
      · left
        simp only [hlast, if_true]
        have hle : g ≤ generation := hg.elim Nat.le_of_lt fun hg => Nat.le_of_eq hg.1
        omega
      · simp only [hlast, if_false, and_false, false_or]
        exact hg.imp id fun hg => hg
    · refine ⟨j, slot, g, by rw [getElem?_vacate, if_neg (Ne.symm heq)]; exact hj, rfl, ?_⟩
      refine hg.imp id fun hg => ⟨hg.1, fun hmem => ?_⟩
      rcases (mem_free_vacate_iff r index j).mp hmem with ⟨hj, _⟩ | hmem
      · exact heq hj
      · exact hg.2 hmem

/-- The tokens that satisfy a condition stand for nothing any more; every other one stands
for what it stood for, and which tokens have been issued is as before. -/
structure Removed (r r' : Registry α) (gone : Token → α → Prop) : Prop where
  wellFormed : r'.WellFormed
  kind_eq : r'.kind = r.kind
  issued_iff : ∀ u, r'.Issued u ↔ r.Issued u
  holds_iff : ∀ u w, r'.Holds u w ↔ r.Holds u w ∧ ¬ gone u w

theorem removed_vacate {r : Registry α} (h : r.WellFormed) {index : Nat} {t : Token} {v : α}
    (hat : r.HoldsAt index t v) : Removed r (r.vacate index) fun u _ => u = t := by
  refine ⟨h.vacate hat.occupied, kind_vacate r index,
    fun u => issued_vacate_iff h hat.occupied, fun u w => ?_⟩
  constructor
  · rintro ⟨j, hj⟩
    obtain ⟨hj, hne⟩ := holdsAt_vacate_iff.mp hj
    refine ⟨⟨j, hj⟩, ?_⟩
    rintro rfl
    exact hne (hj.index_eq h hat)
  · rintro ⟨⟨j, hj⟩, hne⟩
    refine ⟨j, holdsAt_vacate_iff.mpr ⟨hj, ?_⟩⟩
    rintro rfl
    exact hne (hj.token_eq hat)

/-- Removing a token that stands for something gives the thing back. -/
theorem remove_of_holds {r : Registry α} (h : r.WellFormed) {t : Token} {v : α}
    (ht : r.Holds t v) :
    ∃ r', r.remove t = (r', .ok v) ∧ Removed r r' fun u _ => u = t := by
  obtain ⟨index, hat⟩ := ht
  refine ⟨r.vacate index, ?_, removed_vacate h hat⟩
  rw [remove, (locate_eq_ok_iff h).mpr hat]

/-- Removing any other token fails and changes nothing. -/
theorem remove_of_not_holds {r : Registry α} (h : r.WellFormed) {t : Token}
    (hnone : ∀ v, ¬ r.Holds t v) : r.remove t = (r, .error (faultOf r.kind t)) := by
  rcases locate_cases h t with ⟨index, v, hat, _⟩ | ⟨_, hlocate⟩
  · exact absurd ⟨index, hat⟩ (hnone v)
  · rw [remove, hlocate]

/-! ## Removing many -/

theorem mem_matching_iff {r : Registry α} {p : α → Bool} {index : Nat} :
    index ∈ r.matching p ↔
      ∃ generation v, r.slots[index]? = some ⟨generation, some v⟩ ∧ p v = true := by
  simp only [matching, List.mem_filter, List.mem_range]
  constructor
  · rintro ⟨_, hp⟩
    split at hp
    · rename_i generation v hslot
      exact ⟨generation, v, hslot, hp⟩
    · simp at hp
  · rintro ⟨generation, v, hslot, hp⟩
    obtain ⟨hlt, _⟩ := Array.getElem?_eq_some_iff.mp hslot
    exact ⟨hlt, by rw [hslot]; exact hp⟩

theorem occupied_of_mem_matching {r : Registry α} {p : α → Bool} {index : Nat}
    (h : index ∈ r.matching p) : r.Occupied index := by
  obtain ⟨generation, v, hslot, _⟩ := mem_matching_iff.mp h
  exact ⟨generation, v, hslot⟩

theorem nodup_matching (r : Registry α) (p : α → Bool) : (r.matching p).Nodup :=
  List.Pairwise.filter _ List.nodup_range

/-- Vacating occupied slots, none of them twice, one after the other. -/
theorem foldl_vacate_spec {r : Registry α} (h : r.WellFormed) (indices : List Nat)
    (hnodup : indices.Nodup) (hoccupied : ∀ index ∈ indices, r.Occupied index) :
    (indices.foldl vacate r).WellFormed ∧ (indices.foldl vacate r).kind = r.kind ∧
      (∀ t, (indices.foldl vacate r).Issued t ↔ r.Issued t) ∧
      ∀ j t v, (indices.foldl vacate r).HoldsAt j t v ↔ r.HoldsAt j t v ∧ j ∉ indices := by
  induction indices generalizing r with
  | nil => simp [h]
  | cons index rest ih =>
    obtain ⟨hnotmem, hnodup⟩ := List.nodup_cons.mp hnodup
    have hfirst := hoccupied index List.mem_cons_self
    have hrest : ∀ j ∈ rest, (r.vacate index).Occupied j := fun j hmem =>
      (hoccupied j (List.mem_cons_of_mem _ hmem)).vacate fun heq => hnotmem (heq ▸ hmem)
    obtain ⟨hwell, hkind, hissued, hholds⟩ := ih (h.vacate hfirst) hnodup hrest
    refine ⟨hwell, hkind, fun t => (hissued t).trans (issued_vacate_iff h hfirst), ?_⟩
    intro j t v
    rw [List.foldl_cons, hholds, holdsAt_vacate_iff, List.mem_cons, not_or, and_assoc]

theorem removed_removeWhere {r : Registry α} (h : r.WellFormed) (p : α → Bool) :
    Removed r (r.removeWhere p).1 fun _ w => p w = true := by
  obtain ⟨hwell, hkind, hissued, hholds⟩ :=
    foldl_vacate_spec h (r.matching p) (nodup_matching r p) fun _ => occupied_of_mem_matching
  refine ⟨hwell, hkind, hissued, fun u w => ?_⟩
  constructor
  · rintro ⟨j, hj⟩
    obtain ⟨hj, hnotmem⟩ := (hholds j u w).mp hj
    refine ⟨⟨j, hj⟩, fun hp => hnotmem ?_⟩
    obtain ⟨generation, hslot, _⟩ := hj
    exact mem_matching_iff.mpr ⟨generation, w, hslot, hp⟩
  · rintro ⟨⟨j, hj⟩, hp⟩
    refine ⟨j, (hholds j u w).mpr ⟨hj, fun hmem => hp ?_⟩⟩
    obtain ⟨generation, hslot, _⟩ := hj
    obtain ⟨generation', v, hslot', hv⟩ := mem_matching_iff.mp hmem
    rw [hslot] at hslot'
    simp only [Option.some.injEq, Slot.mk.injEq] at hslot'
    rwa [hslot'.2]

/-! ## Changing a thing in its place -/

/-- The thing of one token has been changed. -/
structure Modified (r r' : Registry α) (t : Token) (f : α → α) : Prop where
  wellFormed : r'.WellFormed
  kind_eq : r'.kind = r.kind
  issued_iff : ∀ u, r'.Issued u ↔ r.Issued u
  holds_iff : ∀ u w, r'.Holds u w ↔
    ∃ v, r.Holds u v ∧ w = if u = t then f v else v

/-- Which tokens have been issued does not depend on what is in the slots. -/
theorem issued_mono {r r' : Registry α} (hkind : r'.kind = r.kind) (hfree : r'.free = r.free)
    (hgeneration : ∀ j : Nat,
      (r'.slots[j]?).map Slot.generation = (r.slots[j]?).map Slot.generation)
    {t : Token} (ht : r.Issued t) : r'.Issued t := by
  obtain ⟨j, slot, g, hslot, rfl, hg⟩ := ht
  have hmap := hgeneration j
  rw [hslot, Option.map_some] at hmap
  obtain ⟨slot', hslot', hsame⟩ := Option.map_eq_some_iff.mp hmap
  exact ⟨j, slot', g, hslot', by rw [hkind], by rw [hsame, hfree]; exact hg⟩

/-- One occupied slot has got another thing. -/
structure Refilled (r r' : Registry α) (index generation : Nat) (v w : α) : Prop where
  kind_eq : r'.kind = r.kind
  free_eq : r'.free = r.free
  size_eq : r'.slots.size = r.slots.size
  slots_eq : ∀ j : Nat, r'.slots[j]? =
    if index = j then some ⟨generation, some w⟩ else r.slots[j]?
  before : r.slots[index]? = some ⟨generation, some v⟩

namespace Refilled

variable {r r' : Registry α} {index generation : Nat} {v w : α}

theorem holdsAt (hrefilled : Refilled r r' index generation v w) :
    r.HoldsAt index (Token.make r.kind generation index) v :=
  ⟨generation, hrefilled.before, rfl⟩

theorem slot_of_ne (hrefilled : Refilled r r' index generation v w) {j : Nat}
    (hj : index ≠ j) : r'.slots[j]? = r.slots[j]? := by
  rw [hrefilled.slots_eq, if_neg hj]

theorem generation_eq (hrefilled : Refilled r r' index generation v w) (j : Nat) :
    (r'.slots[j]?).map Slot.generation = (r.slots[j]?).map Slot.generation := by
  rw [hrefilled.slots_eq]
  split
  · rename_i hj
    rw [← hj, hrefilled.before]
    rfl
  · rfl

theorem wellFormed (hrefilled : Refilled r r' index generation v w) (h : r.WellFormed) :
    r'.WellFormed where
  size_le := hrefilled.size_eq ▸ h.size_le
  generation_le {j slot} hj := by
    have hmap := hrefilled.generation_eq j
    rw [hj, Option.map_some] at hmap
    obtain ⟨slot', hslot', hsame⟩ := Option.map_eq_some_iff.mp hmap.symm
    rw [← hsame]
    exact h.generation_le hslot'
  free_nodup := hrefilled.free_eq ▸ h.free_nodup
  vacant_of_free {j} hmem := by
    rw [hrefilled.free_eq] at hmem
    have hnotmem := not_mem_free_of_occupied h hrefilled.holdsAt.occupied
    have hj : index ≠ j := fun heq => hnotmem (heq ▸ hmem)
    obtain ⟨g, hvacant⟩ := h.vacant_of_free hmem
    exact ⟨g, (hrefilled.slot_of_ne hj).trans hvacant⟩

theorem issued_iff (hrefilled : Refilled r r' index generation v w) (u : Token) :
    r'.Issued u ↔ r.Issued u :=
  ⟨issued_mono hrefilled.kind_eq.symm hrefilled.free_eq.symm fun j =>
      (hrefilled.generation_eq j).symm,
    issued_mono hrefilled.kind_eq hrefilled.free_eq hrefilled.generation_eq⟩

/-- The slot's token stands for something else now, and every other one for what it did. -/
theorem modified {f : α → α} (hrefilled : Refilled r r' index generation v (f v))
    (h : r.WellFormed) : Modified r r' (Token.make r.kind generation index) f := by
  have hat := hrefilled.holdsAt
  refine ⟨hrefilled.wellFormed h, hrefilled.kind_eq, hrefilled.issued_iff,
    fun u x => ⟨?_, ?_⟩⟩
  · rintro ⟨j, g, hj, hu⟩
    rw [hrefilled.slots_eq] at hj
    rw [hrefilled.kind_eq] at hu
    split at hj
    · rename_i heq
      subst heq
      simp only [Option.some.injEq, Slot.mk.injEq] at hj
      obtain ⟨rfl, rfl⟩ := hj
      exact ⟨v, ⟨index, generation, hrefilled.before, hu⟩, (if_pos hu).symm⟩
    · rename_i hne
      have hold : r.HoldsAt j u x := ⟨g, hj, hu⟩
      refine ⟨x, ⟨j, hold⟩, (if_neg fun heq => ?_).symm⟩
      subst heq
      exact hne (hat.index_eq h hold)
  · rintro ⟨y, ⟨j, hj⟩, rfl⟩
    split
    · rename_i heq
      subst heq
      obtain rfl := Holds.functional h ⟨index, hat⟩ ⟨j, hj⟩
      exact ⟨index, generation, by rw [hrefilled.slots_eq, if_pos rfl],
        by rw [hrefilled.kind_eq]⟩
    · rename_i hne
      have hindex : index ≠ j := by
        rintro rfl
        exact hne (hj.token_eq hat)
      obtain ⟨g, hold, hu⟩ := hj
      exact ⟨j, g, (hrefilled.slot_of_ne hindex).trans hold,
        by rw [hrefilled.kind_eq]; exact hu⟩

end Refilled

/-- Changing the thing of a token; nothing happens if the token stands for nothing. -/
theorem modified_modify {r : Registry α} (h : r.WellFormed) (t : Token) (f : α → α) :
    Modified r (r.modify t f) t f := by
  rcases locate_cases h t with ⟨index, v, hat, hlocate⟩ | ⟨hnone, hlocate⟩
  · rw [modify, hlocate]
    obtain ⟨generation, hslot, rfl⟩ := hat
    refine Refilled.modified ⟨rfl, rfl, by simp, fun j => ?_, hslot⟩ h
    rw [Array.getElem?_modify]
    by_cases hj : index = j
    · subst hj
      simp [hslot, Slot.fill]
    · simp [hj]
  · have hne : ∀ u w, r.Holds u w → u ≠ t := by
      rintro u w hw rfl
      exact hnone w hw
    rw [modify, hlocate]
    refine ⟨h, rfl, fun _ => Iff.rfl, fun u w => ⟨fun hw => ?_, ?_⟩⟩
    · exact ⟨w, hw, (if_neg (hne u w hw)).symm⟩
    · rintro ⟨v, hv, rfl⟩
      rwa [if_neg (hne u v hv)]

/-! ## All that is held -/

/-- The token of the slot at `index` with what is in the slot. -/
def entryWithToken (r : Registry α) (index : Nat) : Option (Token × α) :=
  match r.slots[index]? with
  | some ⟨generation, some v⟩ => some (Token.make r.kind generation index, v)
  | _ => none

/-- The tokens that stand for something, with what they stand for, in the order of their
slots. -/
def holdings (r : Registry α) : List (Token × α) :=
  (List.range r.slots.size).filterMap r.entryWithToken

theorem entryWithToken_eq_some_iff {r : Registry α} {index : Nat} {t : Token} {v : α} :
    r.entryWithToken index = some (t, v) ↔ r.HoldsAt index t v := by
  unfold entryWithToken HoldsAt
  split
  · rename_i generation w hslot
    simp only [hslot, Option.some.injEq, Prod.mk.injEq, Slot.mk.injEq]
    constructor
    · rintro ⟨rfl, rfl⟩
      exact ⟨generation, ⟨rfl, rfl⟩, rfl⟩
    · rintro ⟨_, ⟨rfl, rfl⟩, rfl⟩
      exact ⟨rfl, rfl⟩
  · rename_i hslot
    constructor
    · intro h
      simp at h
    · rintro ⟨generation, hv, _⟩
      exact absurd hv (hslot generation v)

theorem mem_holdings_iff {r : Registry α} {t : Token} {v : α} :
    (t, v) ∈ r.holdings ↔ r.Holds t v := by
  unfold holdings Holds
  rw [List.mem_filterMap]
  constructor
  · rintro ⟨index, _, hentry⟩
    exact ⟨index, entryWithToken_eq_some_iff.mp hentry⟩
  · rintro ⟨index, hat⟩
    obtain ⟨generation, hslot, _⟩ := id hat
    obtain ⟨hlt, _⟩ := Array.getElem?_eq_some_iff.mp hslot
    exact ⟨index, List.mem_range.mpr hlt, entryWithToken_eq_some_iff.mpr hat⟩

/-- The holdings are in the order of the slots that their tokens name. -/
theorem pairwise_holdings {r : Registry α} (h : r.WellFormed) :
    r.holdings.Pairwise fun a b => a.1.place < b.1.place := by
  refine List.Pairwise.filterMap _ ?_ List.pairwise_lt_range
  intro i j hij a ha b hb
  have hplace := (entryWithToken_eq_some_iff.mp ha).place_eq h
  have hplace' := (entryWithToken_eq_some_iff.mp hb).place_eq h
  omega

/-- No two things are held at one place. -/
theorem eq_of_place_eq {r : Registry α} (h : r.WellFormed) {a b : Token × α}
    (ha : a ∈ r.holdings) (hb : b ∈ r.holdings) (hplace : a.1.place = b.1.place) : a = b := by
  obtain ⟨i, hi⟩ := mem_holdings_iff.mp ha
  obtain ⟨j, hj⟩ := mem_holdings_iff.mp hb
  rw [hi.place_eq h, hj.place_eq h, Nat.add_right_cancel_iff] at hplace
  subst hplace
  have htoken := hi.token_eq hj
  refine Prod.ext htoken ?_
  exact Holds.functional h ⟨i, hi⟩ (htoken ▸ ⟨i, hj⟩)

theorem nodup_holdings {r : Registry α} (h : r.WellFormed) :
    (r.holdings.map Prod.fst).Nodup := by
  refine List.Pairwise.map _ (fun a b hab heq => ?_) (pairwise_holdings h)
  rw [heq] at hab
  exact absurd hab (Nat.lt_irrefl _)

/-- What is removed by a condition is what the holdings have that satisfies it. -/
theorem removeWhere_eq_filter_holdings (r : Registry α) (p : α → Bool) :
    (r.removeWhere p).2 = (r.holdings.filter fun held => p held.2).map Prod.snd := by
  simp only [removeWhere, matching, holdings]
  rw [List.filterMap_filter, List.filter_filterMap, List.map_filterMap]
  congr 1
  funext index
  unfold entryWithToken entryAt
  cases hslot : r.slots[index]? with
  | none => simp
  | some slot =>
    obtain ⟨generation, entry⟩ := slot
    cases entry with
    | none => simp
    | some v => by_cases hp : p v = true <;> simp [Option.filter, hp]

theorem length_removeWhere (r : Registry α) (p : α → Bool) :
    (r.removeWhere p).2.length = (r.matching p).length := by
  have hentries : ∀ index ∈ r.matching p, (r.entryAt index).isSome = true := by
    intro index hmem
    obtain ⟨generation, v, hslot, _⟩ := mem_matching_iff.mp hmem
    unfold entryAt
    rw [hslot]
    rfl
  show ((r.matching p).filterMap r.entryAt).length = _
  rw [List.length_filterMap_eq_countP, List.countP_eq_length.mpr hentries]

theorem size_eq_length_holdings (r : Registry α) : r.size = r.holdings.length := by
  have hslots : r.slots.toList.map some =
      (List.range r.slots.size).map fun index => r.slots[index]? := by
    apply List.ext_getElem?
    intro i
    by_cases hi : i < r.slots.size
    · simp [hi]
    · simp [hi]
  have hcount : r.size = (r.slots.toList.map some).countP fun slot? =>
      slot?.any fun slot => slot.entry.isSome := by
    rw [List.countP_map]
    rfl
  rw [hcount, hslots, List.countP_map, holdings, List.length_filterMap_eq_countP]
  apply List.countP_congr
  intro index _
  unfold entryWithToken
  cases hslot : r.slots[index]? with
  | none => simp [hslot]
  | some slot =>
    obtain ⟨generation, entry⟩ := slot
    cases entry <;> simp [hslot]

end OrderedStore.Registry
