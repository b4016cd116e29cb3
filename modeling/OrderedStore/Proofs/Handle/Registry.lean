import OrderedStore.Handle.Registry
import OrderedStore.Proofs.Handle.Token

/-!
# What a registry holds

`Registry.Holds r t v` says that the token `t` stands for the thing `v`, and
`Registry.Issued r t` that `t` has been handed out at some time.  Both are read off the
slots and the free list, so no history is needed: a slot has issued a token for each of
its generations, the present one included unless the slot waits to be used again.

`Registry.WellFormed` is the invariant under which the operations do to these two
predicates what they should: the free list has no slot twice and only vacant ones,
and generations and indices fit into tokens.
-/

set_option autoImplicit false

namespace OrderedStore.Registry

variable {α : Type}

/-! ## The predicates -/

/-- The thing `v` is in the slot at `index`, and `t` is its token. -/
def HoldsAt (r : Registry α) (index : Nat) (t : Token) (v : α) : Prop :=
  ∃ generation, r.slots[index]? = some ⟨generation, some v⟩ ∧
    t = Token.make r.kind generation index

/-- The token stands for the thing. -/
def Holds (r : Registry α) (t : Token) (v : α) : Prop := ∃ index, r.HoldsAt index t v

/-- The token has been handed out at some time. -/
def Issued (r : Registry α) (t : Token) : Prop :=
  ∃ index slot generation, r.slots[index]? = some slot ∧
    t = Token.make r.kind generation index ∧
    (generation < slot.generation ∨ generation = slot.generation ∧ index ∉ r.free)

/-- There is something in the slot at `index`. -/
def Occupied (r : Registry α) (index : Nat) : Prop :=
  ∃ generation v, r.slots[index]? = some ⟨generation, some v⟩

/-- Generations and indices fit into tokens, and the free list has vacant slots only,
none of them twice and none in its first generation. -/
structure WellFormed (r : Registry α) : Prop where
  size_le : r.slots.size ≤ slotLimit
  generation_le : ∀ {index : Nat} {slot : Slot α}, r.slots[index]? = some slot →
    slot.generation ≤ lastGeneration
  free_nodup : r.free.Nodup
  vacant_of_free : ∀ {index : Nat}, index ∈ r.free →
    ∃ generation, r.slots[index]? = some ⟨generation + 1, none⟩

/-- What is wrong with a token that stands for nothing. -/
def faultOf (kind : HandleKind) (t : Token) : HandleFault :=
  if t = 0 then .null kind else if t.tag ≠ kind.tag then .wrongKind kind else .stale kind

/-! ## Bounds -/

theorem WellFormed.index_lt {r : Registry α} (h : r.WellFormed) {index : Nat} {slot : Slot α}
    (hslot : r.slots[index]? = some slot) : index + 1 < Token.places := by
  obtain ⟨hlt, _⟩ := Array.getElem?_eq_some_iff.mp hslot
  have hsize := h.size_le
  unfold slotLimit at hsize
  have hplaces : Token.places = 2 ^ 32 := rfl
  omega

theorem WellFormed.generation_lt {r : Registry α} (h : r.WellFormed) {index : Nat}
    {slot : Slot α} (hslot : r.slots[index]? = some slot) :
    slot.generation < Token.generations := by
  have hle := h.generation_le hslot
  unfold lastGeneration at hle
  have hgenerations : Token.generations = 2 ^ 24 := rfl
  omega

theorem not_mem_free_of_occupied {r : Registry α} (h : r.WellFormed) {index : Nat}
    (hoccupied : r.Occupied index) : index ∉ r.free := by
  intro hfree
  obtain ⟨generation, v, hslot⟩ := hoccupied
  obtain ⟨generation', hvacant⟩ := h.vacant_of_free hfree
  rw [hslot] at hvacant
  simp at hvacant

theorem HoldsAt.occupied {r : Registry α} {index : Nat} {t : Token} {v : α}
    (h : r.HoldsAt index t v) : r.Occupied index := by
  obtain ⟨generation, hslot, _⟩ := h
  exact ⟨generation, v, hslot⟩

/-- A token that stands for something has been handed out. -/
theorem Holds.issued {r : Registry α} (h : r.WellFormed) {t : Token} {v : α}
    (ht : r.Holds t v) : r.Issued t := by
  obtain ⟨index, hat⟩ := ht
  have hfree := not_mem_free_of_occupied h hat.occupied
  obtain ⟨generation, hslot, rfl⟩ := hat
  exact ⟨index, _, generation, hslot, rfl, Or.inr ⟨rfl, hfree⟩⟩

theorem Issued.ne_zero {r : Registry α} (h : r.WellFormed) {t : Token} (ht : r.Issued t) :
    t ≠ 0 := by
  obtain ⟨index, slot, generation, hslot, rfl, hgeneration⟩ := ht
  have hlt := h.generation_lt hslot
  exact Token.make_ne_zero (by omega) (h.index_lt hslot)

/-- Every token that has been handed out has the tag of its kind. -/
theorem Issued.tag_eq {r : Registry α} (h : r.WellFormed) {t : Token} (ht : r.Issued t) :
    t.tag = r.kind.tag := by
  obtain ⟨index, slot, generation, hslot, rfl, hgeneration⟩ := ht
  have hlt := h.generation_lt hslot
  exact Token.tag_make (by omega) (h.index_lt hslot)

/-- The slot of a token that stands for something is the one that the token names. -/
theorem HoldsAt.place_eq {r : Registry α} (h : r.WellFormed) {index : Nat} {t : Token} {v : α}
    (hat : r.HoldsAt index t v) : t.place = index + 1 := by
  obtain ⟨generation, hslot, rfl⟩ := hat
  exact Token.place_make (h.generation_lt hslot) (h.index_lt hslot)

theorem HoldsAt.index_eq {r : Registry α} (h : r.WellFormed) {index index' : Nat} {t : Token}
    {v v' : α} (hat : r.HoldsAt index t v) (hat' : r.HoldsAt index' t v') :
    index = index' := by
  have hplace := hat.place_eq h
  rw [hat'.place_eq h] at hplace
  omega

theorem HoldsAt.token_eq {r : Registry α} {index : Nat} {t t' : Token} {v v' : α}
    (hat : r.HoldsAt index t v) (hat' : r.HoldsAt index t' v') : t = t' := by
  obtain ⟨generation, hslot, rfl⟩ := hat
  obtain ⟨generation', hslot', rfl⟩ := hat'
  rw [hslot] at hslot'
  simp only [Option.some.injEq, Slot.mk.injEq] at hslot'
  rw [hslot'.1]

/-- A token stands for one thing at most. -/
theorem Holds.functional {r : Registry α} (h : r.WellFormed) {t : Token} {v w : α}
    (hv : r.Holds t v) (hw : r.Holds t w) : v = w := by
  obtain ⟨index, hat⟩ := hv
  obtain ⟨index', hat'⟩ := hw
  have hindex := hat.index_eq h hat'
  subst hindex
  obtain ⟨generation, hslot, _⟩ := hat
  obtain ⟨generation', hslot', _⟩ := hat'
  rw [hslot] at hslot'
  simp only [Option.some.injEq, Slot.mk.injEq] at hslot'
  exact hslot'.2

/-! ## Looking things up -/

theorem locate_eq_ok_iff {r : Registry α} (h : r.WellFormed) {t : Token} {index : Nat} {v : α} :
    r.locate t = .ok (index, v) ↔ r.HoldsAt index t v := by
  constructor
  · intro hlocate
    unfold locate at hlocate
    split at hlocate
    · simp at hlocate
    · split at hlocate
      · simp at hlocate
      · rename_i htag
        split at hlocate
        · simp at hlocate
        · rename_i place hplace
          split at hlocate
          · rename_i generation entry hslot
            split at hlocate
            · rename_i hgeneration
              simp only [Except.ok.injEq, Prod.mk.injEq] at hlocate
              obtain ⟨rfl, rfl⟩ := hlocate
              refine ⟨generation, hslot, ?_⟩
              rw [hgeneration]
              exact Token.eq_make (Decidable.not_not.mp htag) hplace
            · simp at hlocate
          · simp at hlocate
  · rintro ⟨generation, hslot, rfl⟩
    have hgeneration := h.generation_lt hslot
    have hindex := h.index_lt hslot
    unfold locate
    rw [if_neg (Token.make_ne_zero hgeneration hindex),
      if_neg (by rw [Token.tag_make hgeneration hindex]; simp),
      Token.index?_make hgeneration hindex]
    simp only [hslot]
    rw [if_pos (Token.generation_make hgeneration hindex).symm]

/-- A token that is not found is null, of another kind, or stale, in this order. -/
theorem locate_error {r : Registry α} {t : Token} {fault : HandleFault}
    (hlocate : r.locate t = .error fault) : fault = faultOf r.kind t := by
  unfold locate at hlocate
  unfold faultOf
  split at hlocate
  · rename_i hzero
    rw [if_pos hzero]
    exact (Except.error.inj hlocate).symm
  · rename_i hzero
    rw [if_neg hzero]
    split at hlocate
    · rename_i htag
      rw [if_pos htag]
      exact (Except.error.inj hlocate).symm
    · rename_i htag
      rw [if_neg htag]
      split at hlocate
      · exact (Except.error.inj hlocate).symm
      · split at hlocate
        · split at hlocate
          · simp at hlocate
          · exact (Except.error.inj hlocate).symm
        · exact (Except.error.inj hlocate).symm

/-- Looking a token up either finds the one thing it stands for or says what is wrong. -/
theorem locate_cases {r : Registry α} (h : r.WellFormed) (t : Token) :
    (∃ index v, r.HoldsAt index t v ∧ r.locate t = .ok (index, v)) ∨
      ((∀ v, ¬ r.Holds t v) ∧ r.locate t = .error (faultOf r.kind t)) := by
  cases hlocate : r.locate t with
  | ok found =>
    obtain ⟨index, v⟩ := found
    exact Or.inl ⟨index, v, (locate_eq_ok_iff h).mp hlocate, rfl⟩
  | error fault =>
    refine Or.inr ⟨?_, by rw [locate_error hlocate]⟩
    rintro v ⟨index, hat⟩
    rw [(locate_eq_ok_iff h).mpr hat] at hlocate
    simp at hlocate

theorem get_eq_ok_iff {r : Registry α} (h : r.WellFormed) {t : Token} {v : α} :
    r.get t = .ok v ↔ r.Holds t v := by
  rcases locate_cases h t with ⟨index, w, hat, hlocate⟩ | ⟨hnone, hlocate⟩
  · rw [get, hlocate]
    constructor
    · intro hget
      obtain rfl : w = v := Except.ok.inj hget
      exact ⟨index, hat⟩
    · intro hv
      rw [Holds.functional h hv ⟨index, hat⟩]
      rfl
  · rw [get, hlocate]
    exact ⟨fun hget => by simp [Except.map] at hget, fun hv => absurd hv (hnone v)⟩

theorem get_of_not_holds {r : Registry α} (h : r.WellFormed) {t : Token}
    (hnone : ∀ v, ¬ r.Holds t v) : r.get t = .error (faultOf r.kind t) := by
  rcases locate_cases h t with ⟨index, v, hat, _⟩ | ⟨_, hlocate⟩
  · exact absurd ⟨index, hat⟩ (hnone v)
  · rw [get, hlocate]
    rfl

end OrderedStore.Registry
