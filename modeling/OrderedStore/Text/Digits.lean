/-!
# Numbers in positional notation

Lower-case hexadecimal digits of a byte or of a code point, and decimal numbers
padded with zeros to a least width; and decimal digits read back.
-/

set_option autoImplicit false

namespace OrderedStore.Text

/-- The lower-case hexadecimal digit of a number below sixteen. -/
def hexDigit (n : Nat) : Char :=
  if n < 10 then Char.ofNat (0x30 + n) else Char.ofNat (0x57 + n)

/-- A byte as two hexadecimal digits. -/
def hexByte (b : UInt8) : List Char := [hexDigit (b.toNat / 16), hexDigit (b.toNat % 16)]

/-- A number in hexadecimal, without leading zeros. -/
def hexNumber (n : Nat) : List Char := Nat.toDigits 16 n

/-- A number in decimal. -/
def decimal (n : Nat) : List Char := Nat.toDigits 10 n

/-- A number in decimal, with zeros in front up to `width` digits. -/
def paddedDecimal (width n : Nat) : List Char :=
  List.replicate (width - (decimal n).length) '0' ++ decimal n

/-! ## Reading -/

/-- The number that decimal digits spell; there must be some. -/
def number? (digits : List Char) : Option Nat :=
  if digits.isEmpty then none
  else digits.foldl (fun n c =>
    if c.isDigit then n.map fun n => 10 * n + (c.toNat - 0x30) else none) (some 0)

/-- The number that decimal digits spell, with or without a plus sign. -/
def unsigned? (text : String) : Option Nat :=
  number? (match text.toList with
    | '+' :: rest => rest
    | all => all)

/-- What stands behind a sign, if there is one. -/
def dropSign : List Char → List Char
  | '+' :: rest => rest
  | '-' :: rest => rest
  | all => all

/-- Is the text a power of ten behind a number, or nothing? -/
def isExponent : List Char → Bool
  | [] => true
  | c :: rest => (c = 'e' || c = 'E') && (number? (dropSign rest)).isSome

/-- Does the text write a number, which may have a fraction and a power of ten, or be
infinite or no number at all? -/
def isNumeral (text : String) : Bool :=
  let body := dropSign text.toList
  let behind := body.dropWhile Char.isDigit
  let fraction := match behind with
    | '.' :: rest => rest
    | _ => []
  let power := match behind with
    | '.' :: rest => rest.dropWhile Char.isDigit
    | all => all
  ["inf", "infinity", "nan"].contains (String.ofList (body.map Char.toLower))
    || ((body.takeWhile Char.isDigit ++ fraction.takeWhile Char.isDigit) ≠ [] && isExponent power)

end OrderedStore.Text
