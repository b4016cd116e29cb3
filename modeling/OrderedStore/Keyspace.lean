import OrderedStore.Bytes

/-!
# The ordered keyspace

A keyspace maps byte strings to byte strings and keeps its entries in ascending
order of their keys.  The list of entries is its view: every operation is
described by what it does to that list, and since the order is strict a key occurs
at most once.

Keyspaces are values.  Pinning a view of a database is keeping the keyspace it
held, so no later write can show through it.
-/

set_option autoImplicit false

namespace OrderedStore

/-- A key with its value. -/
abbrev Entry := Bytes × Bytes

/-- Keys in strictly ascending order. -/
def Ascending (entries : List Entry) : Prop := entries.Pairwise fun a b => a.1 < b.1

instance (entries : List Entry) : Decidable (Ascending entries) :=
  inferInstanceAs (Decidable (entries.Pairwise _))

/-- An ordered map from byte strings to byte strings. -/
structure Keyspace where
  entries : List Entry
  ascending : Ascending entries

namespace Keyspace

theorem ext {a b : Keyspace} (h : a.entries = b.entries) : a = b := by
  cases a; cases b; simp_all

instance : DecidableEq Keyspace := fun a b =>
  if h : a.entries = b.entries then isTrue (ext h)
  else isFalse fun hab => h (congrArg Keyspace.entries hab)

/-- The keyspace without entries. -/
def empty : Keyspace := ⟨[], List.Pairwise.nil⟩

instance : Inhabited Keyspace := ⟨empty⟩

/-- The number of keys. -/
def size (m : Keyspace) : Nat := m.entries.length

/-- The value stored under a key. -/
def get? (m : Keyspace) (key : Bytes) : Option Bytes :=
  (m.entries.find? fun e => e.1 = key).map (·.2)

/-! ## Writing -/

/-- Puts an entry in its place, over an entry of the same key. -/
def insertEntry (key value : Bytes) : List Entry → List Entry
  | [] => [(key, value)]
  | e :: rest =>
    if e.1 < key then e :: insertEntry key value rest
    else if key < e.1 then (key, value) :: e :: rest
    else (key, value) :: rest

theorem mem_insertEntry {key value : Bytes} {entries : List Entry} {e : Entry}
    (h : e ∈ insertEntry key value entries) : e = (key, value) ∨ e ∈ entries := by
  induction entries with
  | nil => simpa [insertEntry] using h
  | cons d rest ih =>
    simp only [insertEntry] at h
    split at h
    · rcases List.mem_cons.1 h with rfl | h
      · exact Or.inr List.mem_cons_self
      · exact (ih h).imp id (List.mem_cons_of_mem _)
    · split at h
      · exact (List.mem_cons.1 h).imp id id
      · exact (List.mem_cons.1 h).imp id (List.mem_cons_of_mem _)

theorem ascending_insertEntry {key value : Bytes} {entries : List Entry}
    (h : Ascending entries) : Ascending (insertEntry key value entries) := by
  induction entries with
  | nil => exact List.pairwise_singleton _ _
  | cons d rest ih =>
    have hd := List.pairwise_cons.1 h
    simp only [insertEntry]
    split
    · rename_i hlt
      refine List.pairwise_cons.2 ⟨fun e he => ?_, ih hd.2⟩
      rcases mem_insertEntry he with rfl | he
      · exact hlt
      · exact hd.1 e he
    · rename_i hnlt
      split
      · rename_i hlt
        refine List.pairwise_cons.2 ⟨fun e he => ?_, h⟩
        rcases List.mem_cons.1 he with rfl | he
        · exact hlt
        · exact Bytes.lt_trans hlt (hd.1 e he)
      · rename_i hngt
        have hkey : d.1 = key := Bytes.eq_of_not_lt hnlt hngt
        exact List.pairwise_cons.2 ⟨fun e he => hkey ▸ hd.1 e he, hd.2⟩

/-- Stores a value under a key. -/
def insert (m : Keyspace) (key value : Bytes) : Keyspace :=
  ⟨insertEntry key value m.entries, ascending_insertEntry m.ascending⟩

/-- Removes a key; a key that is not there is no matter. -/
def erase (m : Keyspace) (key : Bytes) : Keyspace :=
  ⟨m.entries.filter fun e => e.1 ≠ key, m.ascending.filter _⟩

/-! ## Looking for the nearest key -/

/-- The entry of the smallest key. -/
def first (m : Keyspace) : Option Entry := m.entries.head?

/-- The entry of the largest key. -/
def last (m : Keyspace) : Option Entry := m.entries.getLast?

/-- The entry of the smallest key at or after `key`. -/
def seek (m : Keyspace) (key : Bytes) : Option Entry :=
  m.entries.find? fun e => ¬ e.1 < key

/-- The entry of the smallest key after `key`. -/
def after (m : Keyspace) (key : Bytes) : Option Entry :=
  m.entries.find? fun e => key < e.1

/-- The entry of the largest key before `key`. -/
def before (m : Keyspace) (key : Bytes) : Option Entry :=
  (m.entries.takeWhile fun e => e.1 < key).getLast?

/-- One question to a view: which entry lies where. -/
inductive Query where
  | first
  | last
  | seek (key : Bytes)
  | after (key : Bytes)
  | before (key : Bytes)
  deriving DecidableEq, Repr

/-- The answer of a keyspace. -/
def answer (m : Keyspace) : Query → Option Entry
  | .first => m.first
  | .last => m.last
  | .seek key => m.seek key
  | .after key => m.after key
  | .before key => m.before key

end Keyspace

end OrderedStore
