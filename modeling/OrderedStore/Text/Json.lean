import OrderedStore.Text.Digits

/-!
# JSON values and their indented form

Only what reports need: texts, whole numbers, lists and records.  Each member of
a list or record stands on a line of its own, two blanks further in than the
bracket that holds it; an empty list or record is written without a break.
-/

set_option autoImplicit false

namespace OrderedStore.Text

/-- A JSON value of a report. -/
inductive Json where
  | text (s : String)
  | number (n : Nat)
  | list (items : List Json)
  | record (fields : List (String × Json))

namespace Json

/-- One character inside a JSON text: quotes, backslashes and control characters
are escaped. -/
def escapeChar (c : Char) : List Char :=
  match c with
  | '\x22' => ['\\', '\x22']
  | '\\' => ['\\', '\\']
  | '\x08' => ['\\', 'b']
  | '\x0c' => ['\\', 'f']
  | '\n' => ['\\', 'n']
  | '\r' => ['\\', 'r']
  | '\t' => ['\\', 't']
  | c =>
    if c.toNat < 0x20 then ['\\', 'u', '0', '0'] ++ hexByte (UInt8.ofNat c.toNat) else [c]

/-- A JSON text with its quotes. -/
def quoted (s : String) : String :=
  String.ofList (['\x22'] ++ s.toList.flatMap escapeChar ++ ['\x22'])

/-- The blanks in front of a line that is `depth` brackets deep. -/
def indent (depth : Nat) : String := String.ofList (List.replicate (2 * depth) ' ')

/-- Lines of members between two brackets. -/
def bracketed (opening closing : String) (depth : Nat) (members : List String) : String :=
  if members.isEmpty then opening ++ closing
  else opening ++ "\n" ++ ",\n".intercalate (members.map (indent (depth + 1) ++ ·)) ++ "\n"
    ++ indent depth ++ closing

mutual
/-- The indented form of a value that is `depth` brackets deep. -/
def prettyAt (depth : Nat) : Json → String
  | .text s => quoted s
  | .number n => String.ofList (decimal n)
  | .list items => bracketed "[" "]" depth (prettyItems (depth + 1) items)
  | .record fields => bracketed "\x7b" "\x7d" depth (prettyFields (depth + 1) fields)

/-- The items of a list. -/
def prettyItems (depth : Nat) : List Json → List String
  | [] => []
  | item :: items => prettyAt depth item :: prettyItems depth items

/-- The fields of a record. -/
def prettyFields (depth : Nat) : List (String × Json) → List String
  | [] => []
  | (name, value) :: fields =>
    (quoted name ++ ": " ++ prettyAt depth value) :: prettyFields depth fields
end

/-- The indented form of a value. -/
def pretty (value : Json) : String := prettyAt 0 value

end Json

end OrderedStore.Text
