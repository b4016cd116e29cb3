import Mathlib.Algebra.Group.Nat.Defs
import OrderedStore.Handle.Token

/-!
# The parts of a token

A token is put together from a kind, a generation and an index, and these can be read
off it again as long as the generation fits into its 24 bits and the index, plus one, into
its 32.  So `Token.make` is injective there, never gives the null token, and every
token with the tag of a kind and a part for the slot is one that it gives.
-/

set_option autoImplicit false

namespace OrderedStore

theorem HandleKind.tag_lt (kind : HandleKind) : kind.tag < 2 ^ 8 := by
  cases kind <;> decide

namespace Token

/-- The part of a token that holds the slot, which is the index plus one. -/
def place (t : Token) : Nat := (t % 0x100000000).toNat

/-! ## The parts as numbers -/

theorem place_eq (t : Token) : t.place = t.toNat % 2 ^ 32 := by
  simp [place, UInt64.toNat_mod]

theorem generation_eq (t : Token) : t.generation = t.toNat / 2 ^ 32 % 2 ^ 24 := by
  simp [generation, UInt64.toNat_mod, UInt64.toNat_div]

theorem tag_eq (t : Token) : t.tag = t.toNat / 2 ^ 56 := by
  simp [tag, UInt64.toNat_div]

theorem generation_lt (t : Token) : t.generation < generations := by
  rw [generation_eq]
  exact Nat.mod_lt _ (by decide)

theorem index?_eq_some_iff {t : Token} {index : Nat} :
    t.index? = some index ↔ t.place = index + 1 := by
  unfold index? place
  split
  · rename_i hzero
    simp [hzero]
  · rename_i place hplace
    simp [hplace]

/-! ## Tokens that have been made -/

section Make

variable {kind kind' : HandleKind} {generation generation' index index' : Nat}

theorem toNat_make (hgeneration : generation < generations) (hindex : index + 1 < places) :
    (make kind generation index).toNat =
      kind.tag * 2 ^ 56 + generation * 2 ^ 32 + (index + 1) := by
  have htag := kind.tag_lt
  unfold generations at hgeneration
  unfold places at hindex
  simp only [make, UInt64.toNat_add, UInt64.toNat_mul, UInt64.toNat_ofNat']
  have hbase : (0x100000000000000 : UInt64).toNat = 2 ^ 56 := rfl
  have hshift : (0x100000000 : UInt64).toNat = 2 ^ 32 := rfl
  rw [hbase, hshift]
  omega

theorem tag_make (hgeneration : generation < generations) (hindex : index + 1 < places) :
    (make kind generation index).tag = kind.tag := by
  rw [tag_eq, toNat_make hgeneration hindex]
  unfold generations at hgeneration
  unfold places at hindex
  omega

theorem generation_make (hgeneration : generation < generations)
    (hindex : index + 1 < places) : (make kind generation index).generation = generation := by
  rw [generation_eq, toNat_make hgeneration hindex]
  unfold generations at hgeneration
  unfold places at hindex
  omega

theorem place_make (hgeneration : generation < generations) (hindex : index + 1 < places) :
    (make kind generation index).place = index + 1 := by
  rw [place_eq, toNat_make hgeneration hindex]
  unfold places at hindex
  omega

theorem index?_make (hgeneration : generation < generations) (hindex : index + 1 < places) :
    (make kind generation index).index? = some index :=
  index?_eq_some_iff.mpr (place_make hgeneration hindex)

theorem make_ne_zero (hgeneration : generation < generations) (hindex : index + 1 < places) :
    make kind generation index ≠ 0 := by
  intro hzero
  have hplace : (make kind generation index).place = index + 1 :=
    place_make hgeneration hindex
  rw [hzero] at hplace
  have hnull : place 0 = 0 := rfl
  omega

/-- Within one kind the generation and the index of a token are its own. -/
theorem make_inj (hgeneration : generation < generations) (hindex : index + 1 < places)
    (hgeneration' : generation' < generations) (hindex' : index' + 1 < places)
    (h : make kind generation index = make kind generation' index') :
    generation = generation' ∧ index = index' := by
  constructor
  · have heq : (make kind generation index).generation = generation :=
      generation_make hgeneration hindex
    rw [← heq, h, generation_make hgeneration' hindex']
  · have hplace : (make kind generation index).place = index + 1 :=
      place_make hgeneration hindex
    rw [h, place_make hgeneration' hindex'] at hplace
    omega

end Make

/-- A token with the tag of a kind and a part for the slot is put together from its
parts. -/
theorem eq_make {kind : HandleKind} {t : Token} {index : Nat} (htag : t.tag = kind.tag)
    (hindex : t.index? = some index) : t = make kind t.generation index := by
  have hplace := index?_eq_some_iff.mp hindex
  have hgeneration := t.generation_lt
  rw [place_eq] at hplace
  have hbound : index + 1 < places := by
    unfold places
    omega
  apply UInt64.toNat_inj.mp
  rw [toNat_make hgeneration hbound, ← htag, ← hplace, tag_eq, generation_eq]
  omega

end Token

end OrderedStore
