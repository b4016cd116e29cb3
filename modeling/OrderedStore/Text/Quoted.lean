import OrderedStore.Text.Digits
import OrderedStore.Text.Printable

/-!
# Quoted text

`quote` writes a text between double quotes so that it can be read on one line:
a few characters have a short escape, other characters that are not printable are
written by their code point in hexadecimal, and the rest stands for itself.
-/

set_option autoImplicit false

namespace OrderedStore.Text

/-- One character inside double quotes. -/
def quoteChar (c : Char) : List Char :=
  match c with
  | '\x00' => ['\\', '0']
  | '\t' => ['\\', 't']
  | '\n' => ['\\', 'n']
  | '\r' => ['\\', 'r']
  | '\\' => ['\\', '\\']
  | '\x22' => ['\\', '\x22']
  | c => if isPrintable c then [c] else ['\\', 'u', '\x7b'] ++ hexNumber c.toNat ++ ['\x7d']

/-- A text between double quotes. -/
def quote (s : String) : String :=
  String.ofList (['\x22'] ++ s.toList.flatMap quoteChar ++ ['\x22'])

end OrderedStore.Text
