import Mathlib.Algebra.Group.Nat.Defs
import OrderedStore.Proofs.Text.Base64
import OrderedStore.Text.Digits

/-!
# Names made of numbers

A text with a decimal number in it tells the number: no two numbers are written alike, and
zeros in front do not change what is read.  Texts of one length that end in numbers are in
the order of the numbers (`utf8_append_lt`), because the order of bytes goes by the first
digit that differs and whatever comes after weighs less than that.  Padding makes the lengths
equal as long as the number fits the width.
-/

set_option autoImplicit false

namespace OrderedStore

theorem utf8_injective : Function.Injective utf8 := by
  intro s t h
  have hencode : s.toList.utf8Encode = t.toList.utf8Encode := congrArg List.toByteArray h
  rw [String.utf8Encode_toList, String.utf8Encode_toList] at hencode
  exact String.toByteArray_inj.mp hencode

theorem utf8_ofList_append (a b : List Char) :
    utf8 (String.ofList (a ++ b)) = utf8 (String.ofList a) ++ utf8 (String.ofList b) := by
  simp only [utf8, String.toList_ofList, List.flatMap_append]

theorem utf8_ofList_injective : Function.Injective fun chars => utf8 (String.ofList chars) :=
  fun _ _ h => String.ofList_injective (utf8_injective h)

namespace Text

/-! ## What is written -/

theorem decimal_injective : Function.Injective decimal := by
  intro m n h
  calc
    m = Nat.ofDigitChars 10 (decimal m) 0 := Nat.ofDigitChars_ten_toDigits.symm
    _ = Nat.ofDigitChars 10 (decimal n) 0 := by rw [h]
    _ = n := Nat.ofDigitChars_ten_toDigits

/-- Zeros in front do not count. -/
theorem ofDigitChars_paddedDecimal (width n : Nat) :
    Nat.ofDigitChars 10 (paddedDecimal width n) 0 = n := by
  rw [paddedDecimal, Nat.ofDigitChars_append, Nat.ofDigitChars_replicate_zero, Nat.mul_zero]
  exact Nat.ofDigitChars_ten_toDigits

theorem paddedDecimal_injective (width : Nat) : Function.Injective (paddedDecimal width) := by
  intro m n h
  rw [← ofDigitChars_paddedDecimal width m, h, ofDigitChars_paddedDecimal]

theorem isDigit_of_mem_paddedDecimal {width n : Nat} {c : Char}
    (h : c ∈ paddedDecimal width n) : c.isDigit = true := by
  rcases List.mem_append.mp h with h | h
  · rw [(List.mem_replicate.mp h).2]
    rfl
  · exact Nat.isDigit_of_mem_toDigits (by decide) (by decide) h

theorem length_paddedDecimal {width n : Nat} (hwidth : 0 < width) (h : n < 10 ^ width) :
    (paddedDecimal width n).length = width := by
  have hlength : (decimal n).length ≤ width :=
    (Nat.length_toDigits_le_iff (by decide) hwidth).mpr h
  rw [paddedDecimal, List.length_append, List.length_replicate]
  omega

/-! ## The order of digits -/

variable {a b : List Char}

theorem toNat_of_isDigit {c : Char} (h : c.isDigit = true) : 48 ≤ c.toNat ∧ c.toNat ≤ 57 := by
  simp only [Char.isDigit, Bool.and_eq_true, decide_eq_true_eq] at h
  exact h

/-- What the first digit weighs. -/
theorem ofDigitChars_cons_eq (c : Char) (rest : List Char) :
    Nat.ofDigitChars 10 (c :: rest) 0 =
      10 ^ rest.length * (c.toNat - 48) + Nat.ofDigitChars 10 rest 0 := by
  rw [Nat.ofDigitChars_cons, Nat.ofDigitChars_eq_ofDigitChars_zero, Nat.mul_zero, Nat.zero_add]
  rfl

/-- A digit outweighs everything that comes after it. -/
theorem ofDigitChars_lt (h : ∀ c ∈ a, c.isDigit = true) :
    Nat.ofDigitChars 10 a 0 < 10 ^ a.length := by
  induction a with
  | nil => exact Nat.one_pos
  | cons c rest ih =>
    obtain ⟨hc, hrest⟩ := List.forall_mem_cons.mp h
    have hdigit : c.toNat - 48 ≤ 9 := Nat.sub_le_of_le_add (toNat_of_isDigit hc).2
    have hweight := Nat.mul_le_mul_left (10 ^ rest.length) hdigit
    have hlater := ih hrest
    rw [ofDigitChars_cons_eq, List.length_cons, Nat.pow_succ]
    omega

/-- Digits of one length are in the order of the numbers that they spell. -/
theorem ascii_lt_of_value_lt (ha : ∀ c ∈ a, c.isDigit = true) (hb : ∀ c ∈ b, c.isDigit = true)
    (hlength : a.length = b.length) (h : Nat.ofDigitChars 10 a 0 < Nat.ofDigitChars 10 b 0) :
    (a.map fun c => UInt8.ofNat c.toNat) < b.map fun c => UInt8.ofNat c.toNat := by
  induction a generalizing b with
  | nil =>
    obtain rfl := List.length_eq_zero_iff.mp hlength.symm
    exact absurd h (Nat.lt_irrefl _)
  | cons c a ih =>
    cases b with
    | nil => simp at hlength
    | cons d b =>
      obtain ⟨hc, ha⟩ := List.forall_mem_cons.mp ha
      obtain ⟨hd, hb⟩ := List.forall_mem_cons.mp hb
      have hlength : a.length = b.length := Nat.succ_inj.mp hlength
      have hlater := ofDigitChars_lt hb
      have hcd := toNat_of_isDigit hc
      have hdd := toNat_of_isDigit hd
      rw [ofDigitChars_cons_eq, ofDigitChars_cons_eq, hlength] at h
      rw [List.map_cons, List.map_cons, List.cons_lt_cons_iff, UInt8.lt_iff_toNat_lt,
        Base64.toNat_ofNat_of_lt (by omega), Base64.toNat_ofNat_of_lt (by omega)]
      rcases Nat.lt_trichotomy c.toNat d.toNat with hlt | heq | hgt
      · exact Or.inl hlt
      · rw [heq] at h ⊢
        exact Or.inr ⟨rfl, ih ha hb hlength (Nat.add_lt_add_iff_left.mp h)⟩
      · have hdigit : d.toNat - 48 + 1 ≤ c.toNat - 48 := by omega
        have hweight := Nat.mul_le_mul_left (10 ^ b.length) hdigit
        rw [Nat.mul_succ] at hweight
        omega

/-- Names that differ in a padded number only are in the order of the numbers that fit. -/
theorem utf8_append_lt {width m n : Nat} (hwidth : 0 < width) (before : List Char) (hmn : m < n)
    (hn : n < 10 ^ width) :
    utf8 (String.ofList (before ++ paddedDecimal width m)) <
      utf8 (String.ofList (before ++ paddedDecimal width n)) := by
  have hascii : ∀ k, ∀ c ∈ paddedDecimal width k, c.toNat < 128 := fun k c hmem =>
    Nat.lt_of_le_of_lt (toNat_of_isDigit (isDigit_of_mem_paddedDecimal hmem)).2 (by decide)
  rw [utf8_ofList_append, utf8_ofList_append, Base64.utf8_ofList (hascii m),
    Base64.utf8_ofList (hascii n)]
  refine List.append_left_lt (ascii_lt_of_value_lt (fun _ => isDigit_of_mem_paddedDecimal)
    (fun _ => isDigit_of_mem_paddedDecimal) ?_ ?_)
  · rw [length_paddedDecimal hwidth (Nat.lt_trans hmn hn), length_paddedDecimal hwidth hn]
  · rw [ofDigitChars_paddedDecimal, ofDigitChars_paddedDecimal]
    exact hmn

end Text

end OrderedStore
