import OrderedStore.Log.Filter
import OrderedStore.Text.Digits
import OrderedStore.Text.Utf8

/-!
# Written filters

A filter is written as directives with commas between them.  A directive is a level
alone, or a target, a span and a field in brackets, and a level, of which each may be
missing: `target[span{field=value}]=level`.

`Directive.parse?` goes through a directive character by character.  Blanks around the
directive are no characters of it, but the places where one part ends and the next
begins are counted from the first character and then looked up in the directive with
its blanks.  So blanks at the end belong to the last part, and blanks at the beginning
move every part by as much.
-/

set_option autoImplicit false

namespace OrderedStore

/-! ## Levels and fields -/

/-- A level by its name in any case or by its number, `off` and `0` for silence. -/
def limitOf? (text : String) : Option (Option Level) :=
  let name := text.map Char.toLower
  match Text.unsigned? text with
  | some 0 => some none
  | some n => (Level.all.find? fun level => level.rank = n).map some
  | none =>
    if name = "off" then some none
    else (Level.all.find? fun level => level.name = name).map some

/-- A value: the word for a truth value or a number as it is, and else a pattern. -/
def ValueTest.parse? (text : String) : Option ValueTest :=
  if text = "true" || text = "false" || Text.isNumeral text then some ⟨text, none⟩
  else (Pattern.parse? text).map fun pattern => ⟨text, some pattern⟩

/-- A field: its name and, behind an equals sign, a value.  What is behind a second
equals sign is of no account. -/
def FieldTest.parse? (text : String) : Option FieldTest :=
  match text.splitOn "=" with
  | name :: value :: _ => (ValueTest.parse? value).map fun value => ⟨name, some value⟩
  | name :: [] => some ⟨name, none⟩
  | [] => none

namespace Directive

/-! ## Places in a directive -/

/-- The part of a directive that the next character belongs to.  Parts of any length
come with the place where they begin. -/
inductive Part where
  | beginning
  /-- A target, or a level that stands alone. -/
  | word (start : Nat)
  | span (start : Nat)
  | field (start : Nat)
  /-- What follows the field. -/
  | fieldEnd
  /-- What follows the bracket of the span. -/
  | spanEnd
  | level (start : Nat)
  deriving DecidableEq, Repr

/-- How far a directive has been read. -/
structure Reading where
  /-- The directive with its blanks. -/
  text : Bytes
  target : String := ""
  span : Option String := none
  field : Option FieldTest := none
  part : Part := .beginning
  deriving DecidableEq, Repr

/-- Characters with the places, in bytes, where they begin. -/
def places (start : Nat) : List Char → List (Nat × Char)
  | [] => []
  | c :: rest => (start, c) :: places (start + c.utf8Size) rest

/-- May the character begin a target or a level? -/
def opensWord (c : Char) : Bool := Text.isAlphanumeric c || c = '-' || c = ':' || c = '_'

namespace Reading

/-- The text from one place up to another. -/
def between (r : Reading) (start stop : Nat) : Option String :=
  Utf8.text? ((r.text.drop start).take (stop - start))

/-- The text from a place on. -/
def behind (r : Reading) (start : Nat) : Option String := Utf8.text? (r.text.drop start)

/-- Reads a character of the span's name. -/
def inSpan (r : Reading) (start place : Nat) (c : Char) : Option Reading :=
  match c with
  | ']' => (r.between start place).map fun name => { r with span := some name, part := .spanEnd }
  | '\x7b' => (r.between start place).map fun name =>
    { r with span := if name = "" then none else some name, part := .field (place + 1) }
  | _ => some r

/-- Reads the character at a place. -/
def step (r : Reading) (next : Nat × Char) : Option Reading :=
  let (place, c) := next
  match r.part with
  | .beginning =>
    if c = '[' then some { r with part := .span (place + 1) }
    else if opensWord c then some { r with part := .word place }
    else none
  | .word start =>
    if c = '=' then
      (r.between start place).map fun name => { r with target := name, part := .level (place + 1) }
    else if c = '[' then
      (r.between start place).map fun name => { r with target := name, part := .span (place + 1) }
    else some r
  | .span start => r.inSpan start place c
  | .field start =>
    if c = '\x7d' then
      ((r.between start place).filter (· ≠ "")).bind fun text =>
        (FieldTest.parse? text).map fun field => { r with field := some field, part := .fieldEnd }
    else some r
  | .fieldEnd => if c = ']' then some { r with part := .spanEnd } else none
  | .spanEnd => if c = '=' then some { r with part := .level (place + 1) } else none
  | .level _ => some r

/-- The directive that has been read, with a limit. -/
def directive (r : Reading) (limit : Option Level) : Directive :=
  ⟨r.target, r.span, r.field, limit⟩

/-- The directive that has been read up to its end.  Without a level everything is let
through. -/
def finish (r : Reading) : Option Directive :=
  match r.part with
  | .word start => (r.behind start).map fun text =>
    match limitOf? text with
    | some limit => .general limit
    | none => { r.directive (some .trace) with target := text }
  | .spanEnd => some (r.directive (some .trace))
  | .level start => (r.behind start).bind fun text =>
    (if text = "" then some (some .trace) else limitOf? text).map r.directive
  | .beginning | .span _ | .field _ | .fieldEnd => none

end Reading

/-- Text without the blanks at its two ends. -/
def trim (text : List Char) : List Char :=
  ((text.dropWhile Text.isBlank).reverse.dropWhile Text.isBlank).reverse

/-- Reads one directive. -/
def parse? (text : String) : Option Directive :=
  ((places 0 (trim text.toList)).foldlM Reading.step { text := utf8 text }).bind Reading.finish

end Directive

/-- Reads a filter.  Between two commas may be nothing. -/
def Filter.parse? (text : String) : Option Filter :=
  ((text.splitOn ",").filter (· ≠ "")).mapM Directive.parse?

end OrderedStore
