import Mathlib.Algebra.Group.Nat.Defs
import OrderedStore.Proofs.Text.Base64

/-!
# What is written in base64

`decode_encode` says that what is written for some bytes is read as these bytes.  The last
group is read by itself, and the groups before it one after the other, so the proof follows
the groups that writing makes.

`Forms` is the rule of the format, which knows nothing of groups of three bytes: the bits of
the bytes are taken by sixes, and what is missing in the end is filled up.
-/

set_option autoImplicit false

namespace OrderedStore.Text.Base64

variable {b x y z : UInt8} {start : Nat} {text rest : List UInt8} {bytes : Bytes} {tail : Tail}

/-! ## What has been written is read back -/

theorem value?_symbol : ∀ v < 64, value? (symbol v) = some v := by decide

theorem symbol_ne_pad : ∀ v < 64, symbol v ≠ pad := by decide

section Written

variable {v : Nat} (hv : v < 64)

include hv

theorem valueAt_symbol (offset : Nat) : valueAt offset (symbol v) = .ok v := by
  rw [valueAt, value?_symbol v hv]

theorem Tail.add_symbol (htail : tail.padding = 0) (index : Nat) :
    tail.add start index (symbol v) =
      .ok { tail with values := tail.values ++ [v], last := symbol v } := by
  rw [Tail.add, if_neg (symbol_ne_pad v hv), if_neg (by omega), valueAt_symbol hv]

end Written

theorem Tail.add_pad {index : Nat} (hindex : 2 ≤ index) :
    tail.add start index pad = .ok { tail with
      padding := tail.padding + 1
      firstPad := if tail.padding = 0 then index else tail.firstPad } := by
  rw [Tail.add, if_pos rfl, if_neg (by omega)]

theorem Tail.addAll_cons {tail' : Tail} {index : Nat} (h : tail.add start index b = .ok tail') :
    tail.addAll start index (b :: rest) = tail'.addAll start (index + 1) rest := by
  rw [Tail.addAll, h]

/-- A text of four bytes or less is read as a last group. -/
theorem decodeFrom_of_short (h : text.length ≤ 4)
    (hread : Tail.addAll start ⟨[], 0, 0, 0⟩ 0 text = .ok tail) :
    decodeFrom start text = tail.bytes start := by
  unfold decodeFrom
  split
  · simp only [List.length_cons] at h
    omega
  · rw [hread]
    rfl

section Values

variable {v w u t : Nat} {last : UInt8} {firstPad : Nat}

theorem bytes_of_two_values (hspill : w % 16 = 0) :
    Tail.bytes start ⟨[v, w], last, 2, firstPad⟩ = .ok [UInt8.ofNat (v * 4 + w / 16)] := by
  simp [Tail.bytes, hspill]

theorem bytes_of_three_values (hspill : u % 4 = 0) :
    Tail.bytes start ⟨[v, w, u], last, 1, firstPad⟩ =
      .ok [UInt8.ofNat (v * 4 + w / 16), UInt8.ofNat (w % 16 * 16 + u / 4)] := by
  simp [Tail.bytes, hspill]

theorem bytes_of_four_values :
    Tail.bytes start ⟨[v, w, u, t], last, 0, firstPad⟩ =
      .ok [UInt8.ofNat (v * 4 + w / 16), UInt8.ofNat (w % 16 * 16 + u / 4),
        UInt8.ofNat (u % 4 * 64 + t)] := by
  simp [Tail.bytes]

end Values

/-! ## The bytes of a group -/

theorem first_byte (x y : UInt8) :
    UInt8.ofNat (x.toNat / 4 * 4 + (x.toNat % 4 * 16 + y.toNat / 16) / 16) = x := by
  have hy := y.toNat_lt
  exact ofNat_toNat_eq _ (by omega)

theorem second_byte (x y z : UInt8) :
    UInt8.ofNat ((x.toNat % 4 * 16 + y.toNat / 16) % 16 * 16 +
      (y.toNat % 16 * 4 + z.toNat / 64) / 4) = y := by
  have hy := y.toNat_lt
  have hz := z.toNat_lt
  exact ofNat_toNat_eq _ (by omega)

theorem third_byte (y z : UInt8) :
    UInt8.ofNat ((y.toNat % 16 * 4 + z.toNat / 64) % 4 * 64 + z.toNat % 64) = z := by
  have hz := z.toNat_lt
  exact ofNat_toNat_eq _ (by omega)

theorem decodeFrom_one (start : Nat) (x : UInt8) :
    decodeFrom start (encode [x]) = .ok [x] := by
  have hx := x.toNat_lt
  have hread : Tail.addAll start ⟨[], 0, 0, 0⟩ 0 (encode [x]) =
      .ok ⟨[x.toNat / 4, x.toNat % 4 * 16], symbol (x.toNat % 4 * 16), 2, 2⟩ := by
    rw [encode, Tail.addAll_cons (Tail.add_symbol (by omega) rfl 0),
      Tail.addAll_cons (Tail.add_symbol (by omega) rfl 1),
      Tail.addAll_cons (Tail.add_pad (by omega)), Tail.addAll_cons (Tail.add_pad (by omega))]
    rfl
  have hfirst : UInt8.ofNat (x.toNat / 4 * 4 + x.toNat % 4 * 16 / 16) = x := first_byte x 0
  rw [decodeFrom_of_short (Nat.le_of_eq rfl) hread, bytes_of_two_values (by omega), hfirst]

theorem decodeFrom_two (start : Nat) (x y : UInt8) :
    decodeFrom start (encode [x, y]) = .ok [x, y] := by
  have hx := x.toNat_lt
  have hy := y.toNat_lt
  have hread : Tail.addAll start ⟨[], 0, 0, 0⟩ 0 (encode [x, y]) =
      .ok ⟨[x.toNat / 4, x.toNat % 4 * 16 + y.toNat / 16, y.toNat % 16 * 4],
        symbol (y.toNat % 16 * 4), 1, 3⟩ := by
    rw [encode, Tail.addAll_cons (Tail.add_symbol (by omega) rfl 0),
      Tail.addAll_cons (Tail.add_symbol (by omega) rfl 1),
      Tail.addAll_cons (Tail.add_symbol (by omega) rfl 2),
      Tail.addAll_cons (Tail.add_pad (by omega))]
    rfl
  have hsecond : UInt8.ofNat ((x.toNat % 4 * 16 + y.toNat / 16) % 16 * 16 +
      y.toNat % 16 * 4 / 4) = y := second_byte x y 0
  rw [decodeFrom_of_short (Nat.le_of_eq rfl) hread, bytes_of_three_values (by omega), first_byte,
    hsecond]

theorem decodeFrom_three (start : Nat) (x y z : UInt8) :
    decodeFrom start (encode [x, y, z]) = .ok [x, y, z] := by
  have hx := x.toNat_lt
  have hy := y.toNat_lt
  have hz := z.toNat_lt
  have hread : Tail.addAll start ⟨[], 0, 0, 0⟩ 0 (encode [x, y, z]) =
      .ok ⟨[x.toNat / 4, x.toNat % 4 * 16 + y.toNat / 16, y.toNat % 16 * 4 + z.toNat / 64,
        z.toNat % 64], symbol (z.toNat % 64), 0, 0⟩ := by
    rw [encode, encode, Tail.addAll_cons (Tail.add_symbol (by omega) rfl 0),
      Tail.addAll_cons (Tail.add_symbol (by omega) rfl 1),
      Tail.addAll_cons (Tail.add_symbol (by omega) rfl 2),
      Tail.addAll_cons (Tail.add_symbol (by omega) rfl 3)]
    rfl
  rw [decodeFrom_of_short (Nat.le_of_eq rfl) hread, bytes_of_four_values, first_byte, second_byte,
    third_byte]

theorem encode_ne_nil (h : bytes ≠ []) : encode bytes ≠ [] := by
  fun_cases encode bytes
  · exact absurd rfl h
  all_goals exact List.cons_ne_nil _ _

/-- What is written for some bytes is read as them, wherever it begins. -/
theorem decodeFrom_encode (start : Nat) (h : bytes ≠ []) :
    decodeFrom start (encode bytes) = .ok bytes := by
  induction bytes using encode.induct generalizing start with
  | case1 => exact absurd rfl h
  | case2 x => exact decodeFrom_one start x
  | case3 x y => exact decodeFrom_two start x y
  | case4 x y z rest ih =>
    by_cases hrest : rest = []
    · subst hrest
      exact decodeFrom_three start x y z
    · have hx := x.toNat_lt
      have hy := y.toNat_lt
      have hz := z.toNat_lt
      -- More comes behind this group, so it is not read as the last one.
      obtain ⟨e, more, hmore⟩ := List.exists_cons_of_ne_nil (encode_ne_nil hrest)
      have hlater := ih (start + 4) hrest
      rw [hmore] at hlater
      rw [encode, hmore, decodeFrom, valueAt_symbol (by omega), valueAt_symbol (by omega),
        valueAt_symbol (by omega), valueAt_symbol (by omega), hlater]
      show Except.ok _ = _
      rw [first_byte, second_byte, third_byte]

theorem length_encode_mod (bytes : Bytes) : (encode bytes).length % 4 = 0 := by
  induction bytes using encode.induct with
  | case1 => rfl
  | case2 x => simp [encode]
  | case3 x y => simp [encode]
  | case4 x y z rest ih =>
    simp only [encode, List.length_cons]
    omega

/-- What is written is accepted and stands for the bytes it was written for. -/
theorem decode_encode (bytes : Bytes) : decode (encode bytes) = .ok bytes := by
  have hlength := length_encode_mod bytes
  rw [decode, strayLast, if_neg (by omega)]
  by_cases hbytes : bytes = []
  · subst hbytes
    rfl
  · simp only [if_neg (encode_ne_nil hbytes)]
    exact decodeFrom_encode 0 hbytes

/-! ## The rule of what is written -/

/-- The symbols in the order of their values. -/
def alphabet : List UInt8 :=
  utf8 "ABCDEFGHIJKLMNOPQRSTUVWXYZabcdefghijklmnopqrstuvwxyz0123456789+/"

/-- The binary digits of a number, highest first. -/
def bits (width n : Nat) : List Bool := (List.range width).reverse.map n.testBit

/-- The text is the written form of the bytes: their bits, with zeros put behind them, are
the bits of symbols by sixes, and filling symbols make up the last group of four. -/
structure Forms (bytes : Bytes) (text : List UInt8) (values : List Nat) (padding : Nat) :
    Prop where
  text_eq : text = values.map (alphabet.getD · pad) ++ List.replicate padding pad
  small : ∀ v ∈ values, v < 64
  groups : (values.length + padding) % 4 = 0
  padding_lt : padding < 3
  bits_eq : values.flatMap (bits 6) =
    bytes.flatMap (fun b => bits 8 b.toNat) ++ List.replicate (2 * padding) false

theorem getD_alphabet : ∀ v < 64, alphabet.getD v pad = symbol v := by decide

theorem bits_append (width more m : Nat) {n : Nat} (hn : n < 2 ^ more) :
    bits width m ++ bits more n = bits (more + width) (2 ^ more * m + n) := by
  unfold bits
  rw [List.range_add, List.reverse_append, List.map_append]
  congr 1
  · rw [← List.map_reverse, List.map_map]
    refine List.map_congr_left fun i _ => ?_
    rw [Function.comp_apply, Nat.testBit_two_pow_mul_add m hn, if_neg (by omega),
      Nat.add_sub_cancel_left]
  · refine List.map_congr_left fun i hi => ?_
    have hlt : i < more := by simpa using hi
    rw [Nat.testBit_two_pow_mul_add m hn, if_pos hlt]

theorem bits_zero (width : Nat) : bits width 0 = List.replicate width false := by
  unfold bits
  rw [List.map_congr_left (g := fun _ => false) fun i _ => Nat.zero_testBit i, List.map_const',
    List.length_reverse, List.length_range]

theorem bits_group (x y z : UInt8) :
    bits 6 (x.toNat / 4) ++ (bits 6 (x.toNat % 4 * 16 + y.toNat / 16) ++
        (bits 6 (y.toNat % 16 * 4 + z.toNat / 64) ++ bits 6 (z.toNat % 64))) =
      bits 8 x.toNat ++ (bits 8 y.toNat ++ bits 8 z.toNat) := by
  have hy := y.toNat_lt
  have hz := z.toNat_lt
  simp only [← List.append_assoc]
  rw [bits_append _ _ _ (by omega), bits_append _ _ _ (by omega), bits_append _ _ _ (by omega),
    bits_append _ _ _ (by omega), bits_append _ _ _ (by omega)]
  congr 1
  omega

theorem bits_one (x : UInt8) :
    bits 6 (x.toNat / 4) ++ bits 6 (x.toNat % 4 * 16) = bits 8 x.toNat ++ bits 4 0 := by
  rw [bits_append _ _ _ (by omega), bits_append _ _ _ (by omega)]
  congr 1
  omega

theorem bits_two (x y : UInt8) :
    bits 6 (x.toNat / 4) ++ (bits 6 (x.toNat % 4 * 16 + y.toNat / 16) ++
        bits 6 (y.toNat % 16 * 4)) =
      bits 8 x.toNat ++ (bits 8 y.toNat ++ bits 2 0) := by
  have hy := y.toNat_lt
  simp only [← List.append_assoc]
  rw [bits_append _ _ _ (by omega), bits_append _ _ _ (by omega), bits_append _ _ _ (by omega),
    bits_append _ _ _ (by omega)]
  congr 1
  omega

/-- A whole group in front. -/
theorem Forms.group {values : List Nat} {padding : Nat} (h : Forms bytes text values padding)
    (x y z : UInt8) :
    Forms (x :: y :: z :: bytes)
      (symbol (x.toNat / 4) :: symbol (x.toNat % 4 * 16 + y.toNat / 16)
        :: symbol (y.toNat % 16 * 4 + z.toNat / 64) :: symbol (z.toNat % 64) :: text)
      (x.toNat / 4 :: (x.toNat % 4 * 16 + y.toNat / 16) :: (y.toNat % 16 * 4 + z.toNat / 64)
        :: z.toNat % 64 :: values) padding := by
  have hx := x.toNat_lt
  have hy := y.toNat_lt
  have hz := z.toNat_lt
  constructor
  case text_eq =>
    simp only [List.map_cons, List.cons_append, ← h.text_eq]
    rw [getD_alphabet _ (by omega), getD_alphabet _ (by omega), getD_alphabet _ (by omega),
      getD_alphabet _ (by omega)]
  case small =>
    simp only [List.forall_mem_cons]
    exact ⟨by omega, by omega, by omega, by omega, h.small⟩
  case groups =>
    have hgroups := h.groups
    simp only [List.length_cons]
    omega
  case padding_lt => exact h.padding_lt
  case bits_eq =>
    simp only [List.flatMap_cons, List.append_assoc, h.bits_eq]
    simp only [← List.append_assoc]
    congr 1
    congr 1
    simpa only [List.append_assoc] using bits_group x y z

theorem forms_encode (bytes : Bytes) :
    ∃ values padding, Forms bytes (encode bytes) values padding := by
  induction bytes using encode.induct with
  | case1 => exact ⟨[], 0, rfl, List.forall_mem_nil _, rfl, by decide, rfl⟩
  | case2 x =>
    have hx := x.toNat_lt
    refine ⟨[x.toNat / 4, x.toNat % 4 * 16], 2, ?_, ?_, by simp, by decide, ?_⟩
    · simp only [List.map_cons, List.map_nil]
      rw [getD_alphabet _ (by omega), getD_alphabet _ (by omega), encode]
      rfl
    · simp only [List.forall_mem_cons]
      exact ⟨by omega, by omega, List.forall_mem_nil _⟩
    · rw [← bits_zero]
      simpa only [List.flatMap_cons, List.flatMap_nil, List.append_nil] using bits_one x
  | case3 x y =>
    have hx := x.toNat_lt
    have hy := y.toNat_lt
    refine ⟨[x.toNat / 4, x.toNat % 4 * 16 + y.toNat / 16, y.toNat % 16 * 4], 1, ?_, ?_, by simp,
      by decide, ?_⟩
    · simp only [List.map_cons, List.map_nil]
      rw [getD_alphabet _ (by omega), getD_alphabet _ (by omega), getD_alphabet _ (by omega),
        encode]
      rfl
    · simp only [List.forall_mem_cons]
      exact ⟨by omega, by omega, by omega, List.forall_mem_nil _⟩
    · rw [← bits_zero]
      simpa only [List.flatMap_cons, List.flatMap_nil, List.append_nil, List.append_assoc]
        using bits_two x y
  | case4 x y z rest ih =>
    obtain ⟨values, padding, hforms⟩ := ih
    exact ⟨_, padding, hforms.group x y z⟩

end OrderedStore.Text.Base64
