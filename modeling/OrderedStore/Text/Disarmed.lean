import OrderedStore.Text.Digits

/-!
# Text that a terminal does not obey

`disarm` writes the characters with which a text could steer a terminal by their
code: of the controls in ASCII escape, bell, backspace, form feed and delete, and all
controls beyond ASCII.  The rest, line breaks and tabs among it, stands for itself.
-/

set_option autoImplicit false

namespace OrderedStore.Text

/-- The controls of ASCII that are written by their code. -/
def isArmed (c : Char) : Bool :=
  c = '\x1b' || c = '\x07' || c = '\x08' || c = '\x0c' || c = '\x7f'

/-- One character as it is shown. -/
def disarmChar (c : Char) : List Char :=
  if isArmed c then ['\\', 'x'] ++ hexByte (UInt8.ofNat c.toNat)
  else if 0x80 ≤ c.toNat && c.toNat ≤ 0x9F then
    ['\\', 'u', '\x7b'] ++ hexNumber c.toNat ++ ['\x7d']
  else [c]

/-- A text with its controls written by their codes. -/
def disarm (s : String) : String := String.ofList (s.toList.flatMap disarmChar)

end OrderedStore.Text
