import OrderedStore.Bytes

/-!
# Base64

The standard alphabet, in groups of four symbols for three bytes, with `=` filling
up the last group.  Reading is strict: the last group must be filled up, and the
bits of its last symbol that reach no byte must be zero, so each byte string has
exactly one written form.

`decode` reports the first fault by its place.  A text whose length leaves one
symbol over is refused for that symbol if it is foreign to the alphabet, before
anything else is looked at.
-/

set_option autoImplicit false

namespace OrderedStore.Text.Base64

/-- Why a text is not base64. -/
inductive Fault where
  /-- The byte at this offset may not stand there. -/
  | invalidByte (offset : Nat) (byte : UInt8)
  /-- The text ends after the first symbol of a group. -/
  | invalidLength (length : Nat)
  /-- The last symbol carries bits that belong to no byte. -/
  | invalidLastSymbol (offset : Nat) (byte : UInt8)
  /-- The last group is not filled up. -/
  | invalidPadding
  deriving DecidableEq, Repr

/-- The fault in words. -/
def Fault.message : Fault → String
  | .invalidByte offset byte => s!"Invalid symbol {byte.toNat}, offset {offset}."
  | .invalidLength length => s!"Invalid input length: {length}"
  | .invalidLastSymbol offset byte => s!"Invalid last symbol {byte.toNat}, offset {offset}."
  | .invalidPadding => "Invalid padding"

/-- The fault as a constructor with its arguments. -/
def Fault.literal : Fault → String
  | .invalidByte offset byte => s!"InvalidByte({offset}, {byte.toNat})"
  | .invalidLength length => s!"InvalidLength({length})"
  | .invalidLastSymbol offset byte => s!"InvalidLastSymbol({offset}, {byte.toNat})"
  | .invalidPadding => "InvalidPadding"

/-- The filling symbol `=`. -/
def pad : UInt8 := 0x3D

/-- The symbol of a six-bit value. -/
def symbol (value : Nat) : UInt8 :=
  if value < 26 then UInt8.ofNat (0x41 + value)
  else if value < 52 then UInt8.ofNat (0x61 + (value - 26))
  else if value < 62 then UInt8.ofNat (0x30 + (value - 52))
  else if value = 62 then 0x2B
  else 0x2F

/-- The six-bit value of a symbol. -/
def value? (b : UInt8) : Option Nat :=
  if 0x41 ≤ b ∧ b ≤ 0x5A then some (b.toNat - 0x41)
  else if 0x61 ≤ b ∧ b ≤ 0x7A then some (b.toNat - 0x61 + 26)
  else if 0x30 ≤ b ∧ b ≤ 0x39 then some (b.toNat - 0x30 + 52)
  else if b = 0x2B then some 62
  else if b = 0x2F then some 63
  else none

/-! ## Writing -/

/-- The symbols of a byte string. -/
def encode : Bytes → List UInt8
  | [] => []
  | [a] => [symbol (a.toNat / 4), symbol (a.toNat % 4 * 16), pad, pad]
  | [a, b] =>
    [symbol (a.toNat / 4), symbol (a.toNat % 4 * 16 + b.toNat / 16),
      symbol (b.toNat % 16 * 4), pad]
  | a :: b :: c :: rest =>
    symbol (a.toNat / 4) :: symbol (a.toNat % 4 * 16 + b.toNat / 16)
      :: symbol (b.toNat % 16 * 4 + c.toNat / 64) :: symbol (c.toNat % 64) :: encode rest

/-! ## Reading -/

/-- The value of the symbol at `offset`. -/
def valueAt (offset : Nat) (b : UInt8) : Except Fault Nat :=
  match value? b with
  | some v => .ok v
  | none => .error (.invalidByte offset b)

/-- The symbols of the last group, the number of filling symbols after them, and the
place of the first of these. -/
structure Tail where
  values : List Nat
  last : UInt8
  padding : Nat
  firstPad : Nat
  deriving DecidableEq, Repr

/-- Adds one byte of the last group.  Filling symbols may stand only after two
symbols or more, and nothing may stand after them. -/
def Tail.add (start : Nat) (tail : Tail) (index : Nat) (b : UInt8) : Except Fault Tail :=
  if b = pad then
    if index < 2 then .error (.invalidByte (start + index) b)
    else .ok { tail with
      padding := tail.padding + 1
      firstPad := if tail.padding = 0 then index else tail.firstPad }
  else if tail.padding > 0 then .error (.invalidByte (start + tail.firstPad) pad)
  else match valueAt (start + index) b with
    | .error fault => .error fault
    | .ok v => .ok { tail with values := tail.values ++ [v], last := b }

/-- Adds the bytes of the last group one by one. -/
def Tail.addAll (start : Nat) (tail : Tail) : Nat → List UInt8 → Except Fault Tail
  | _, [] => .ok tail
  | index, b :: rest =>
    match tail.add start index b with
    | .error fault => .error fault
    | .ok tail => tail.addAll start (index + 1) rest

/-- The bytes of the last group, which begins at `start`. -/
def Tail.bytes (start : Nat) (tail : Tail) : Except Fault Bytes :=
  let spill (zero : Bool) (bytes : Bytes) : Except Fault Bytes :=
    if zero then .ok bytes
    else .error (.invalidLastSymbol (start + tail.values.length - 1) tail.last)
  if tail.values.length < 2 then .error (.invalidLength (start + tail.values.length))
  else if (tail.padding + tail.values.length) % 4 ≠ 0 then .error .invalidPadding
  else match tail.values with
    | [a, b] => spill (b % 16 = 0) [UInt8.ofNat (a * 4 + b / 16)]
    | [a, b, c] =>
      spill (c % 4 = 0) [UInt8.ofNat (a * 4 + b / 16), UInt8.ofNat (b % 16 * 16 + c / 4)]
    | a :: b :: c :: d :: _ =>
      .ok [UInt8.ofNat (a * 4 + b / 16), UInt8.ofNat (b % 16 * 16 + c / 4),
        UInt8.ofNat (c % 4 * 64 + d)]
    | _ => .ok []

/-- Reads group after group; the group that is last, whole or not, is read as the
tail. -/
def decodeFrom (start : Nat) : List UInt8 → Except Fault Bytes
  | a :: b :: c :: d :: e :: rest => do
    let va ← valueAt start a
    let vb ← valueAt (start + 1) b
    let vc ← valueAt (start + 2) c
    let vd ← valueAt (start + 3) d
    let bytes ← decodeFrom (start + 4) (e :: rest)
    pure (UInt8.ofNat (va * 4 + vb / 16) :: UInt8.ofNat (vb % 16 * 16 + vc / 4)
      :: UInt8.ofNat (vc % 4 * 64 + vd) :: bytes)
  | tail => do
    let tail ← Tail.addAll start ⟨[], 0, 0, 0⟩ 0 tail
    tail.bytes start

/-- Does the text leave one symbol over that is neither in the alphabet nor filling? -/
def strayLast (text : List UInt8) : Option UInt8 :=
  if text.length % 4 = 1 then
    text.getLast?.filter fun b => b ≠ pad && (value? b).isNone
  else none

/-- The bytes that a base64 text stands for. -/
def decode (text : List UInt8) : Except Fault Bytes :=
  match strayLast text with
  | some b => .error (.invalidByte (text.length - 1) b)
  | none => if text = [] then .ok [] else decodeFrom 0 text

end OrderedStore.Text.Base64
