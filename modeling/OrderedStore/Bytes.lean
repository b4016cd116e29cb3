/-!
# Byte strings and their order

Keys and values are byte strings.  Keys are ordered byte by byte as unsigned
numbers, and a proper beginning of a key comes before the key itself; this is
the lexicographic order that core gives to `List UInt8`.  The module names the
three facts every search in a keyspace rests on: the order is irreflexive,
transitive and total.
-/

set_option autoImplicit false

namespace OrderedStore

/-- A byte string: a key, a value, or the contents of a file. -/
abbrev Bytes := List UInt8

namespace Bytes

theorem lt_irrefl (a : Bytes) : ¬ a < a := List.lt_irrefl a

theorem lt_trans {a b c : Bytes} (hab : a < b) (hbc : b < c) : a < c :=
  List.lt_trans hab hbc

theorem lt_asymm {a b : Bytes} (hab : a < b) : ¬ b < a :=
  fun hba => lt_irrefl a (lt_trans hab hba)

/-- Two keys of which neither comes first are one key. -/
theorem eq_of_not_lt {a b : Bytes} (hab : ¬ a < b) (hba : ¬ b < a) : a = b :=
  List.le_antisymm (List.not_lt.mp hba) (List.not_lt.mp hab)

theorem lt_or_eq_or_gt (a b : Bytes) : a < b ∨ a = b ∨ b < a := by
  by_cases hab : a < b
  · exact Or.inl hab
  · by_cases hba : b < a
    · exact Or.inr (Or.inr hba)
    · exact Or.inr (Or.inl (eq_of_not_lt hab hba))

end Bytes

end OrderedStore
