import OrderedStore.Bytes
import OrderedStore.Text.Digits

/-!
# Bytes as printable ASCII

`escape` shows any byte string on a terminal: printable ASCII stands for itself,
except that both quotes and the backslash take a backslash, tab, carriage return
and newline have letters of their own, and every other byte is `\xHH`.
-/

set_option autoImplicit false

namespace OrderedStore.Text

/-- One byte as printable ASCII. -/
def escapeByte (b : UInt8) : List Char :=
  if b = 0x09 then ['\\', 't']
  else if b = 0x0D then ['\\', 'r']
  else if b = 0x0A then ['\\', 'n']
  else if b = 0x27 then ['\\', '\x27']
  else if b = 0x22 then ['\\', '\x22']
  else if b = 0x5C then ['\\', '\\']
  else if 0x20 ≤ b ∧ b < 0x7F then [Char.ofNat b.toNat]
  else ['\\', 'x'] ++ hexByte b

/-- A byte string as printable ASCII. -/
def escape (bytes : Bytes) : String := String.ofList (bytes.flatMap escapeByte)

end OrderedStore.Text
