import OrderedStore.Text.Base64
import OrderedStore.Text.Utf8

/-!
# Base64 both ways

Reading is so strict that a text that is accepted is the one that its bytes are written as
(`encode_of_decode`): the symbols of each group come back from the bytes they stand for, and
the last group is filled up as writing fills it up.  All symbols are ASCII, so this
holds of texts as it does of their bytes (`ofList_encode`).
-/

set_option autoImplicit false

namespace OrderedStore.Text.Base64

variable {b x y z : UInt8} {start : Nat} {text rest : List UInt8} {bytes : Bytes} {tail : Tail}

/-! ## Symbols -/

theorem ofNat_toNat_eq (n : Nat) (h : n = b.toNat) : UInt8.ofNat n = b := by
  rw [h]
  exact UInt8.ofNat_toNat

theorem toNat_ofNat_of_lt {n : Nat} (h : n < 256) : (UInt8.ofNat n).toNat = n :=
  UInt8.toNat_ofNat_of_lt' h

/-- The symbol of a six-bit value is the one that has it. -/
theorem symbol_of_value? {v : Nat} (h : value? b = some v) : symbol v = b ∧ v < 64 := by
  unfold value? at h
  simp only [UInt8.le_iff_toNat_le] at h
  split at h
  · rename_i hupper
    obtain rfl := Option.some.inj h
    have hlow : 0x41 ≤ b.toNat := hupper.1
    have hhigh : b.toNat ≤ 0x5A := hupper.2
    rw [symbol, if_pos (by omega)]
    exact ⟨ofNat_toNat_eq _ (by omega), by omega⟩
  · split at h
    · rename_i hlower
      obtain rfl := Option.some.inj h
      have hlow : 0x61 ≤ b.toNat := hlower.1
      have hhigh : b.toNat ≤ 0x7A := hlower.2
      rw [symbol, if_neg (by omega), if_pos (by omega)]
      exact ⟨ofNat_toNat_eq _ (by omega), by omega⟩
    · split at h
      · rename_i hdigit
        obtain rfl := Option.some.inj h
        have hlow : 0x30 ≤ b.toNat := hdigit.1
        have hhigh : b.toNat ≤ 0x39 := hdigit.2
        rw [symbol, if_neg (by omega), if_neg (by omega), if_pos (by omega)]
        exact ⟨ofNat_toNat_eq _ (by omega), by omega⟩
      · split at h
        · rename_i hplus
          obtain rfl := Option.some.inj h
          rw [hplus]
          exact ⟨rfl, by omega⟩
        · split at h
          · rename_i hslash
            obtain rfl := Option.some.inj h
            rw [hslash]
            exact ⟨rfl, by omega⟩
          · simp at h

theorem symbol_of_valueAt {v : Nat} (h : valueAt start b = .ok v) : symbol v = b ∧ v < 64 := by
  unfold valueAt at h
  split at h
  · rename_i hvalue
    obtain rfl := Except.ok.inj h
    exact symbol_of_value? hvalue
  · simp at h

theorem toNat_symbol_lt (v : Nat) : (symbol v).toNat < 128 := by
  have hofNat : ∀ n, n < 128 → (UInt8.ofNat n).toNat < 128 := by
    intro n hn
    rw [toNat_ofNat_of_lt (by omega)]
    exact hn
  unfold symbol
  split
  · exact hofNat _ (by omega)
  · split
    · exact hofNat _ (by omega)
    · split
      · exact hofNat _ (by omega)
      · split <;> decide

theorem toNat_pad_lt : pad.toNat < 128 := by decide

/-- What is written is ASCII. -/
theorem toNat_encode_lt (bytes : Bytes) : ∀ b ∈ encode bytes, b.toNat < 128 := by
  induction bytes using encode.induct with
  | case1 => exact List.forall_mem_nil _
  | case2 a =>
    simp only [encode, List.forall_mem_cons]
    exact ⟨toNat_symbol_lt _, toNat_symbol_lt _, toNat_pad_lt, toNat_pad_lt, List.forall_mem_nil _⟩
  | case3 a b =>
    simp only [encode, List.forall_mem_cons]
    exact ⟨toNat_symbol_lt _, toNat_symbol_lt _, toNat_symbol_lt _, toNat_pad_lt,
      List.forall_mem_nil _⟩
  | case4 a b c rest ih =>
    simp only [encode, List.forall_mem_cons]
    exact ⟨toNat_symbol_lt _, toNat_symbol_lt _, toNat_symbol_lt _, toNat_symbol_lt _, ih⟩

/-! ## Groups -/

section Groups

variable {va vb vc vd : Nat} (ha : va < 64) (hb : vb < 64)

include ha hb

/-- The first byte of a group has the first value and a part of the second. -/
theorem toNat_first : (UInt8.ofNat (va * 4 + vb / 16)).toNat = va * 4 + vb / 16 :=
  toNat_ofNat_of_lt (by omega)

/-- Two values that leave nothing over are written as one byte. -/
theorem encode_one (hzero : vb % 16 = 0) :
    encode [UInt8.ofNat (va * 4 + vb / 16)] = [symbol va, symbol vb, pad, pad] := by
  rw [encode, toNat_first ha hb]
  have hfirst : (va * 4 + vb / 16) / 4 = va := by omega
  have hsecond : (va * 4 + vb / 16) % 4 * 16 = vb := by omega
  rw [hfirst, hsecond]

variable (hc : vc < 64)

include hc

omit ha hb in
theorem toNat_second : (UInt8.ofNat (vb % 16 * 16 + vc / 4)).toNat = vb % 16 * 16 + vc / 4 :=
  toNat_ofNat_of_lt (by omega)

/-- Three values that leave nothing over are written as two bytes. -/
theorem encode_two (hzero : vc % 4 = 0) :
    encode [UInt8.ofNat (va * 4 + vb / 16), UInt8.ofNat (vb % 16 * 16 + vc / 4)] =
      [symbol va, symbol vb, symbol vc, pad] := by
  rw [encode, toNat_first ha hb, toNat_second hc]
  have hfirst : (va * 4 + vb / 16) / 4 = va := by omega
  have hsecond : (va * 4 + vb / 16) % 4 * 16 + (vb % 16 * 16 + vc / 4) / 16 = vb := by omega
  have hthird : (vb % 16 * 16 + vc / 4) % 16 * 4 = vc := by omega
  rw [hfirst, hsecond, hthird]

/-- Four values are written as three bytes. -/
theorem encode_three (hd : vd < 64) (rest : Bytes) :
    encode (UInt8.ofNat (va * 4 + vb / 16) :: UInt8.ofNat (vb % 16 * 16 + vc / 4) ::
        UInt8.ofNat (vc % 4 * 64 + vd) :: rest) =
      symbol va :: symbol vb :: symbol vc :: symbol vd :: encode rest := by
  have hlast : (UInt8.ofNat (vc % 4 * 64 + vd)).toNat = vc % 4 * 64 + vd :=
    toNat_ofNat_of_lt (by omega)
  rw [encode, toNat_first ha hb, toNat_second hc, hlast]
  have hfirst : (va * 4 + vb / 16) / 4 = va := by omega
  have hsecond : (va * 4 + vb / 16) % 4 * 16 + (vb % 16 * 16 + vc / 4) / 16 = vb := by omega
  have hthird : (vb % 16 * 16 + vc / 4) % 16 * 4 + (vc % 4 * 64 + vd) / 64 = vc := by omega
  have hfourth : (vc % 4 * 64 + vd) % 64 = vd := by omega
  rw [hfirst, hsecond, hthird, hfourth]

end Groups

/-! ## The last group -/

/-- What has been read of the last group. -/
structure Tail.Spells (tail : Tail) (text : List UInt8) : Prop where
  text : text = tail.values.map symbol ++ List.replicate tail.padding pad
  small : ∀ v ∈ tail.values, v < 64

theorem Tail.Spells.add (h : tail.Spells text) {tail' : Tail} {index : Nat}
    (hadd : tail.add start index b = .ok tail') : tail'.Spells (text ++ [b]) := by
  obtain ⟨htext, hsmall⟩ := h
  unfold Tail.add at hadd
  split at hadd
  · rename_i hpad
    split at hadd
    · simp at hadd
    · obtain rfl := Except.ok.inj hadd
      refine ⟨?_, hsmall⟩
      rw [htext, hpad, List.replicate_succ', List.append_assoc]
  · split at hadd
    · simp at hadd
    · rename_i hnone
      split at hadd
      · simp at hadd
      · rename_i v hvalue
        obtain rfl := Except.ok.inj hadd
        obtain ⟨hsymbol, hv⟩ := symbol_of_valueAt hvalue
        have hpadding : tail.padding = 0 := by omega
        refine ⟨?_, fun v' hmem => ?_⟩
        · simp [htext, hpadding, hsymbol]
        · rcases List.mem_append.mp hmem with hold | hnew
          · exact hsmall v' hold
          · rw [List.mem_singleton.mp hnew]
            exact hv

theorem Tail.Spells.addAll (h : tail.Spells text) {tail' : Tail} {index : Nat}
    (hadd : tail.addAll start index rest = .ok tail') : tail'.Spells (text ++ rest) := by
  induction rest generalizing tail text index with
  | nil =>
    obtain rfl := Except.ok.inj hadd
    rw [List.append_nil]
    exact h
  | cons b rest ih =>
    unfold Tail.addAll at hadd
    split at hadd
    · simp at hadd
    · rename_i next hnext
      rw [List.append_cons]
      exact ih (h.add hnext) hadd

/-- A last group that is accepted is whole, and is what its bytes are written as. -/
theorem Tail.Spells.encode_bytes (h : tail.Spells text) (hlength : text.length ≤ 4)
    (hbytes : tail.bytes start = .ok bytes) : encode bytes = text := by
  obtain ⟨htext, hsmall⟩ := h
  have hcount := congrArg List.length htext
  rw [List.length_append, List.length_map, List.length_replicate] at hcount
  obtain ⟨values, last, padding, firstPad⟩ := tail
  simp only at htext hsmall hcount
  unfold Tail.bytes at hbytes
  simp only at hbytes
  split at hbytes
  · simp at hbytes
  · rename_i htwo
    split at hbytes
    · simp at hbytes
    · rename_i hwhole
      rcases values with _ | ⟨va, _ | ⟨vb, _ | ⟨vc, _ | ⟨vd, more⟩⟩⟩⟩
      · simp at htwo
      · simp at htwo
      · simp only [List.length_cons, List.length_nil] at hcount hwhole hbytes
        obtain rfl : padding = 2 := by omega
        split at hbytes
        · rename_i hzero
          obtain rfl := Except.ok.inj hbytes
          rw [htext]
          exact encode_one (hsmall va (by simp)) (hsmall vb (by simp)) (of_decide_eq_true hzero)
        · simp at hbytes
      · simp only [List.length_cons, List.length_nil] at hcount hwhole hbytes
        obtain rfl : padding = 1 := by omega
        split at hbytes
        · rename_i hzero
          obtain rfl := Except.ok.inj hbytes
          rw [htext]
          exact encode_two (hsmall va (by simp)) (hsmall vb (by simp)) (hsmall vc (by simp))
            (of_decide_eq_true hzero)
        · simp at hbytes
      · simp only [List.length_cons] at hcount
        obtain rfl : more = [] := List.eq_nil_of_length_eq_zero (by omega)
        obtain rfl : padding = 0 := by omega
        obtain rfl := Except.ok.inj hbytes
        rw [htext]
        exact encode_three (hsmall va (by simp)) (hsmall vb (by simp)) (hsmall vc (by simp))
          (hsmall vd (by simp)) []

/-! ## Whole texts -/

theorem ok_of_bind {α β : Type} {read : Except Fault α} {go : α → Except Fault β} {found : β}
    (h : (read >>= go) = .ok found) : ∃ a, read = .ok a ∧ go a = .ok found := by
  cases read with
  | error fault => exact nomatch h
  | ok a => exact ⟨a, rfl, h⟩

theorem encode_of_decodeFrom (h : decodeFrom start text = .ok bytes) : encode bytes = text := by
  induction start, text using decodeFrom.induct generalizing bytes with
  | case1 start a b c d e rest ih =>
    unfold decodeFrom at h
    obtain ⟨va, ha, h⟩ := ok_of_bind h
    obtain ⟨vb, hb, h⟩ := ok_of_bind h
    obtain ⟨vc, hc, h⟩ := ok_of_bind h
    obtain ⟨vd, hd, h⟩ := ok_of_bind h
    obtain ⟨more, hmore, h⟩ := ok_of_bind h
    obtain rfl := Except.ok.inj h
    obtain ⟨rfl, hva⟩ := symbol_of_valueAt ha
    obtain ⟨rfl, hvb⟩ := symbol_of_valueAt hb
    obtain ⟨rfl, hvc⟩ := symbol_of_valueAt hc
    obtain ⟨rfl, hvd⟩ := symbol_of_valueAt hd
    rw [encode_three hva hvb hvc hvd, ih hmore]
  | case2 start text hshort =>
    have hlength : text.length ≤ 4 := by
      rcases text with _ | ⟨a, _ | ⟨b, _ | ⟨c, _ | ⟨d, _ | ⟨e, rest⟩⟩⟩⟩⟩
      · simp
      · simp
      · simp
      · simp
      · simp
      · exact absurd rfl (hshort a b c d e rest)
    have hempty : Tail.Spells ⟨[], 0, 0, 0⟩ [] := ⟨rfl, fun v hmem => absurd hmem List.not_mem_nil⟩
    unfold decodeFrom at h
    split at h
    · exact absurd rfl (hshort _ _ _ _ _ _)
    · obtain ⟨tail, hadd, h⟩ := ok_of_bind h
      exact (hempty.addAll hadd).encode_bytes hlength h

/-- A text that is accepted is what its bytes are written as. -/
theorem encode_of_decode (h : decode text = .ok bytes) : encode bytes = text := by
  unfold decode at h
  split at h
  · simp at h
  · split at h
    · rename_i hempty
      obtain rfl := Except.ok.inj h
      exact hempty.symm
    · exact encode_of_decodeFrom h

/-! ## Texts of characters -/

/-- Only a character of ASCII is written in ASCII, and then as itself. -/
theorem utf8EncodeChar_of_ascii {c : Char}
    (h : ∀ b ∈ String.utf8EncodeChar c, b.toNat < 128) :
    String.utf8EncodeChar c = [UInt8.ofNat c.toNat] ∧ c.toNat < 128 := by
  unfold String.utf8EncodeChar at h ⊢
  simp only at h ⊢
  split
  · rename_i hascii
    exact ⟨rfl, Nat.lt_succ_of_le hascii⟩
  · rename_i hbeyond
    rw [if_neg hbeyond] at h
    -- Every other form begins with a byte that is marked as no character of its own.
    have hlead : ∀ n (rest : Bytes), 128 ≤ n → n < 256 →
        ¬ ∀ b ∈ UInt8.ofNat n :: rest, b.toNat < 128 := by
      intro n rest hhigh hn hall
      have hlow := hall _ List.mem_cons_self
      rw [toNat_ofNat_of_lt hn] at hlow
      omega
    split at h
    · exact absurd h (hlead _ _ (by omega) (by omega))
    · split at h
      · exact absurd h (hlead _ _ (by omega) (by omega))
      · exact absurd h (hlead _ _ (by omega) (by omega))

theorem toNat_ofNat_toNat (b : UInt8) : (Char.ofNat b.toNat).toNat = b.toNat := by
  have hb := b.toNat_lt
  have hvalid : b.toNat.isValidChar := Or.inl (by omega)
  rw [Char.ofNat, dif_pos hvalid]
  rfl

theorem utf8_ofList {chars : List Char} (h : ∀ c ∈ chars, c.toNat < 128) :
    utf8 (String.ofList chars) = chars.map fun c => UInt8.ofNat c.toNat := by
  rw [utf8, String.toList_ofList]
  induction chars with
  | nil => rfl
  | cons c rest ih =>
    obtain ⟨hc, hrest⟩ := List.forall_mem_cons.mp h
    have hchar : String.utf8EncodeChar c = [UInt8.ofNat c.toNat] := by
      unfold String.utf8EncodeChar
      exact if_pos (Nat.le_of_lt_succ hc)
    rw [List.flatMap_cons, hchar, ih hrest]
    rfl

theorem ofList_utf8 {s : String} (h : ∀ b ∈ utf8 s, b.toNat < 128) :
    String.ofList ((utf8 s).map fun b => Char.ofNat b.toNat) = s := by
  have hchars : ∀ chars : List Char,
      (∀ b ∈ chars.flatMap String.utf8EncodeChar, b.toNat < 128) →
      (chars.flatMap String.utf8EncodeChar).map (fun b => Char.ofNat b.toNat) = chars := by
    intro chars hall
    induction chars with
    | nil => rfl
    | cons c rest ih =>
      rw [List.flatMap_cons] at hall ⊢
      obtain ⟨hencode, hc⟩ := utf8EncodeChar_of_ascii fun b hb =>
        hall b (List.mem_append_left _ hb)
      rw [List.map_append, ih fun b hb => hall b (List.mem_append_right _ hb), hencode,
        List.map_singleton, toNat_ofNat_of_lt (by omega), Char.ofNat_toNat]
      rfl
  rw [utf8, hchars _ h, String.ofList_toList]

/-- A text that is accepted is what its bytes are printed as. -/
theorem ofList_encode {s : String} (h : decode (utf8 s) = .ok bytes) :
    String.ofList ((encode bytes).map fun b => Char.ofNat b.toNat) = s := by
  have hencode := encode_of_decode h
  have hascii := toNat_encode_lt bytes
  rw [hencode] at hascii ⊢
  exact ofList_utf8 hascii

/-- As a text of characters, what is written is made of the bytes that it was. -/
theorem utf8_encode (bytes : Bytes) :
    utf8 (String.ofList ((encode bytes).map fun b => Char.ofNat b.toNat)) = encode bytes := by
  rw [utf8_ofList, List.map_map]
  · refine List.map_id'' (fun b => ?_) _
    rw [Function.comp_apply, toNat_ofNat_toNat, UInt8.ofNat_toNat]
  · intro c hc
    obtain ⟨b, hb, rfl⟩ := List.mem_map.mp hc
    rw [toNat_ofNat_toNat]
    exact toNat_encode_lt bytes b hb

end OrderedStore.Text.Base64
