import OrderedStore.Proofs.Text.Base64
import OrderedStore.Text.Escaped

/-!
# Escaped bytes read back

An escaped text is printable ASCII, and `unescape` reads the bytes off it that it was
written for (`unescape_escape`): what stands behind a backslash decides how far an escape
goes, and no other piece begins with one.  So two byte strings with one escaped text are one.

Taken as it stands, an escaped text spells its bytes exactly if none of them is escaped:
every escape is longer than the byte it stands for (`utf8_escape_eq_iff`).
-/

set_option autoImplicit false

namespace OrderedStore.Text

open Base64 (toNat_ofNat_toNat utf8_ofList)

/-! ## The rule of escapes -/

/-- The byte is printable ASCII and neither the backslash nor a quote. -/
def Literal (b : UInt8) : Prop :=
  0x20 ≤ b.toNat ∧ b.toNat ≤ 0x7E ∧ b ≠ 0x5C ∧ b ≠ 0x27 ∧ b ≠ 0x22

instance (b : UInt8) : Decidable (Literal b) := inferInstanceAs (Decidable (_ ∧ _))

/-- The byte that a character stands for behind a backslash. -/
def named? : Char → Option UInt8
  | 't' => some 0x09
  | 'r' => some 0x0D
  | 'n' => some 0x0A
  | '\x27' => some 0x27
  | '\x22' => some 0x22
  | '\\' => some 0x5C
  | _ => none

/-- What a byte may be written as. -/
inductive Escape (b : UInt8) : List Char → Prop
  | literal (h : Literal b) : Escape b [Char.ofNat b.toNat]
  | named {c : Char} (h : named? c = some b) : Escape b ['\\', c]
  | hex (h : ¬ Literal b) : Escape b ('\\' :: 'x' :: hexByte b)

theorem escape_escapeByte (b : UInt8) : Escape b (escapeByte b) := by
  unfold escapeByte
  -- Six bytes have a name behind the backslash.
  iterate 6
    split
    · rename_i h
      exact .named (h ▸ rfl)
  split
  · rename_i hquote hquotes hbackslash hprintable
    simp only [UInt8.le_iff_toNat_le, UInt8.lt_iff_toNat_lt] at hprintable
    exact .literal ⟨hprintable.1, Nat.le_of_lt_succ hprintable.2, hbackslash, hquote, hquotes⟩
  · rename_i hbeyond
    simp only [UInt8.le_iff_toNat_le, UInt8.lt_iff_toNat_lt] at hbeyond
    exact .hex fun h => hbeyond ⟨h.1, Nat.lt_succ_of_le h.2.1⟩

/-! ## Reading -/

/-- The number that a hexadecimal digit stands for. -/
def hexValue? (c : Char) : Option Nat :=
  if '0' ≤ c ∧ c ≤ '9' then some (c.toNat - 0x30)
  else if 'a' ≤ c ∧ c ≤ 'f' then some (c.toNat - 0x57)
  else none

/-- The bytes that an escaped text stands for. -/
def unescape : List Char → Option Bytes
  | [] => some []
  | '\\' :: 'x' :: high :: low :: rest =>
    match hexValue? high, hexValue? low with
    | some h, some l => (unescape rest).map (UInt8.ofNat (h * 16 + l) :: ·)
    | _, _ => none
  | '\\' :: c :: rest =>
    match named? c with
    | some b => (unescape rest).map (b :: ·)
    | none => none
  | c :: rest => if c = '\\' then none else (unescape rest).map (UInt8.ofNat c.toNat :: ·)

theorem hexValue?_hexDigit : ∀ n < 16, hexValue? (hexDigit n) = some n := by decide

theorem Literal.ne_backslash {b : UInt8} (h : Literal b) : Char.ofNat b.toNat ≠ '\\' := by
  intro heq
  have hcode := congrArg Char.toNat heq
  rw [toNat_ofNat_toNat] at hcode
  exact h.2.2.1 (UInt8.toNat_inj.mp hcode)

theorem unescape_append {b : UInt8} {piece : List Char} (h : Escape b piece) (rest : List Char) :
    unescape (piece ++ rest) = (unescape rest).map (b :: ·) := by
  cases h with
  | literal h =>
    have hne := h.ne_backslash
    simp [unescape, hne, toNat_ofNat_toNat]
  | @named c h =>
    have hx : c ≠ 'x' := by
      rintro rfl
      simp [named?] at h
    simp [unescape, hx, h]
  | hex h =>
    have hb := b.toNat_lt
    have hhigh := hexValue?_hexDigit (b.toNat / 16) (by omega)
    have hlow := hexValue?_hexDigit (b.toNat % 16) (by omega)
    have hbyte : UInt8.ofNat (b.toNat / 16 * 16 + b.toNat % 16) = b := by
      rw [Nat.div_add_mod' b.toNat 16]
      exact UInt8.ofNat_toNat
    show unescape ('\\' :: 'x' :: hexDigit (b.toNat / 16) :: hexDigit (b.toNat % 16) :: rest) = _
    rw [unescape, hhigh, hlow]
    show (unescape rest).map (UInt8.ofNat (b.toNat / 16 * 16 + b.toNat % 16) :: ·) = _
    rw [hbyte]

theorem unescape_escape (bytes : Bytes) : unescape (escape bytes).toList = some bytes := by
  rw [escape, String.toList_ofList]
  induction bytes with
  | nil => rfl
  | cons b rest ih =>
    rw [List.flatMap_cons, unescape_append (escape_escapeByte b), ih]
    rfl

theorem escape_injective : Function.Injective escape := by
  intro a b h
  have hread := unescape_escape a
  rw [h, unescape_escape b] at hread
  exact (Option.some.inj hread).symm

/-! ## Printable -/

/-- The character is printable ASCII. -/
def Printable (c : Char) : Prop := 0x20 ≤ c.toNat ∧ c.toNat ≤ 0x7E

instance (c : Char) : Decidable (Printable c) := inferInstanceAs (Decidable (_ ∧ _))

theorem printable_hexDigit : ∀ n < 16, Printable (hexDigit n) := by decide

theorem printable_of_named? {c : Char} {b : UInt8} (h : named? c = some b) : Printable c := by
  unfold named? at h
  split at h
  case h_7 => exact nomatch h
  all_goals decide

theorem not_literal_of_named? {c : Char} {b : UInt8} (h : named? c = some b) : ¬ Literal b := by
  unfold named? at h
  split at h
  case h_7 => exact nomatch h
  all_goals
    obtain rfl := Option.some.inj h
    decide

theorem Escape.printable {b : UInt8} {piece : List Char} (h : Escape b piece) :
    ∀ c ∈ piece, Printable c := by
  cases h with
  | literal h =>
    rw [List.forall_mem_singleton, Printable, toNat_ofNat_toNat]
    exact ⟨h.1, h.2.1⟩
  | named h =>
    simp only [List.forall_mem_cons]
    exact ⟨by decide, printable_of_named? h, List.forall_mem_nil _⟩
  | hex h =>
    have hb := b.toNat_lt
    simp only [hexByte, List.forall_mem_cons]
    exact ⟨by decide, by decide, printable_hexDigit _ (by omega),
      printable_hexDigit _ (by omega), List.forall_mem_nil _⟩

/-- Everything that is written is printable ASCII. -/
theorem printable_escape (bytes : Bytes) : ∀ c ∈ (escape bytes).toList, Printable c := by
  intro c hc
  rw [escape, String.toList_ofList, List.mem_flatMap] at hc
  obtain ⟨b, _, hc⟩ := hc
  exact (escape_escapeByte b).printable c hc

/-! ## Texts that stand for themselves -/

theorem Escape.eq_of_literal {b : UInt8} {piece : List Char} (h : Escape b piece)
    (hb : Literal b) : piece = [Char.ofNat b.toNat] := by
  cases h with
  | literal _ => rfl
  | named h => exact absurd hb (not_literal_of_named? h)
  | hex h => exact absurd hb h

/-- Every other byte takes more than one character. -/
theorem Escape.two_le_length {b : UInt8} {piece : List Char} (h : Escape b piece)
    (hb : ¬ Literal b) : 2 ≤ piece.length := by
  cases h with
  | literal h => exact absurd h hb
  | named h => exact Nat.le_refl 2
  | hex h => exact Nat.le_add_left 2 2

theorem length_le_escape (bytes : Bytes) : bytes.length ≤ (bytes.flatMap escapeByte).length ∧
    ((bytes.flatMap escapeByte).length = bytes.length → ∀ b ∈ bytes, Literal b) := by
  induction bytes with
  | nil => exact ⟨Nat.le_refl 0, fun _ => List.forall_mem_nil _⟩
  | cons b rest ih =>
    obtain ⟨hle, hrest⟩ := ih
    rw [List.flatMap_cons, List.length_append, List.length_cons, List.forall_mem_cons]
    by_cases hb : Literal b
    · have hone := congrArg List.length ((escape_escapeByte b).eq_of_literal hb)
      rw [List.length_singleton] at hone
      exact ⟨by omega, fun hlength => ⟨hb, hrest (by omega)⟩⟩
    · have htwo := (escape_escapeByte b).two_le_length hb
      exact ⟨by omega, fun hlength => absurd hlength (by omega)⟩

theorem utf8_escape (bytes : Bytes) :
    utf8 (escape bytes) = (bytes.flatMap escapeByte).map fun c => UInt8.ofNat c.toNat := by
  refine utf8_ofList fun c hc => ?_
  have hprintable := printable_escape bytes c (by rw [escape, String.toList_ofList]; exact hc)
  exact Nat.lt_of_le_of_lt hprintable.2 (by decide)

/-- An escaped text spells its bytes exactly if each of them stands for itself. -/
theorem utf8_escape_eq_iff (bytes : Bytes) :
    utf8 (escape bytes) = bytes ↔ ∀ b ∈ bytes, Literal b := by
  rw [utf8_escape]
  constructor
  · intro heq
    have hlength := congrArg List.length heq
    rw [List.length_map] at hlength
    exact (length_le_escape bytes).2 hlength
  · intro hliteral
    induction bytes with
    | nil => rfl
    | cons b rest ih =>
      obtain ⟨hb, hrest⟩ := List.forall_mem_cons.mp hliteral
      rw [List.flatMap_cons, (escape_escapeByte b).eq_of_literal hb, List.map_append, ih hrest,
        List.map_singleton, toNat_ofNat_toNat, UInt8.ofNat_toNat]
      rfl

end OrderedStore.Text
