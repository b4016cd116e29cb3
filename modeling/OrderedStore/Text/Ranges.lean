/-!
# Sets of code points

Properties of characters are given as tables: ranges of code points with both ends
included, in ascending order.  `covers` looks a code point up by halving.
-/

set_option autoImplicit false

namespace OrderedStore.Text

/-- Ranges of code points, in ascending order, with both ends included. -/
abbrev Ranges := List (Nat × Nat)

/-- Is the code point in one of the ranges numbered from `low` up to, and not
including, `high`?  Each look halves what is left of the table. -/
def coversBetween (table : Array (Nat × Nat)) (code low high : Nat) : Bool :=
  if low < high then
    let middle := (low + high) / 2
    match table[middle]? with
    | none => false
    | some (first, last) =>
      if code < first then coversBetween table code low middle
      else if last < code then coversBetween table code (middle + 1) high
      else true
  else false
termination_by high - low
decreasing_by all_goals omega

/-- Is the code point in one of the ranges of a table? -/
def covers (table : Array (Nat × Nat)) (code : Nat) : Bool :=
  coversBetween table code 0 table.size

end OrderedStore.Text
