import OrderedStore.Log.Filter
import OrderedStore.Text.Utf8

/-!
# Delivery of log lines

A host receives each wanted event as one line.  The line is gathered from chunks
of bytes; when it is complete, blanks at its end are cut off, a line that is then
empty is not delivered, and NUL bytes are left out of what is delivered.
-/

set_option autoImplicit false

namespace OrderedStore

/-- A delivered line: level, target and message bytes. -/
structure Line where
  level : Level
  target : String
  message : Bytes
  deriving DecidableEq, Repr

namespace Line

/-- Blank bytes: space, tab, newline, form feed and carriage return. -/
def isBlank (b : UInt8) : Bool := b = 0x20 || b = 0x09 || b = 0x0A || b = 0x0C || b = 0x0D

/-- The bytes up to the last one that is not blank. -/
def trimEnd (bytes : Bytes) : Bytes := (bytes.reverse.dropWhile isBlank).reverse

/-- The message that a gathered line delivers, if it delivers one. -/
def message? (bytes : Bytes) : Option Bytes :=
  let line := trimEnd bytes
  if line.isEmpty then none else some (line.filter (· ≠ 0))

/-- The line that a writer delivers for the chunks written to it. -/
def ofChunks (level : Level) (target : String) (chunks : List Bytes) : Option Line :=
  (message? chunks.flatten).map fun message =>
    ⟨level, String.ofList (target.toList.filter (· ≠ '\x00')), message⟩

/-- The level and target of a writer that was made for no event in particular. -/
def ofPlainChunks (chunks : List Bytes) : Option Line := ofChunks .info "" chunks

end Line

namespace Filter

/-- The line that a host with this filter receives for a record. -/
def deliver (filter : Filter) (record : Record) : Option Line :=
  if filter.enables record then
    Line.ofChunks record.level record.target [utf8 record.text, [0x0A]]
  else none

end Filter

end OrderedStore
