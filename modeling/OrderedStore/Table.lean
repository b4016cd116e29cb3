/-!
# Tables with identities that are never reused

A table holds rows under identities.  An identity is handed out once: `insert` takes
the next one, `skip` passes one over, and `erase` never gives one back.  So an
identity that outlives its row finds nothing, for ever.

Identities carry the species of the thing they stand for, which keeps a session's identity
from being used for a snapshot.
-/

set_option autoImplicit false

namespace OrderedStore

/-- The species of things that have an identity. -/
inductive Species where
  | file
  | session
  | lease
  | snapshot
  | iterator
  deriving DecidableEq, Repr

/-- An identity of a thing of species `s`. -/
structure Identity (s : Species) where
  number : Nat
  deriving DecidableEq, Repr

abbrev FileId := Identity .file

abbrev SessionId := Identity .session

abbrev LeaseId := Identity .lease

abbrev SnapshotId := Identity .snapshot

abbrev IteratorId := Identity .iterator

/-- Rows under identities, and the next identity to hand out. -/
structure Table (s : Species) (α : Type) where
  next : Nat
  rows : List (Identity s × α)

namespace Table

variable {s : Species} {α : Type}

/-- The table without rows. -/
def empty : Table s α := ⟨0, []⟩

instance : Inhabited (Table s α) := ⟨empty⟩

/-- The identity that comes next. -/
def fresh (t : Table s α) : Identity s := ⟨t.next⟩

/-- The row of an identity. -/
def get? (t : Table s α) (id : Identity s) : Option α :=
  (t.rows.find? fun row => row.1 = id).map (·.2)

/-- Adds a row under the next identity. -/
def insert (t : Table s α) (row : α) : Table s α :=
  ⟨t.next + 1, (t.fresh, row) :: t.rows⟩

/-- Passes over the next identity. -/
def skip (t : Table s α) : Table s α := ⟨t.next + 1, t.rows⟩

/-- Changes the row of an identity, if there is one. -/
def modify (t : Table s α) (id : Identity s) (f : α → α) : Table s α :=
  ⟨t.next, t.rows.map fun row => if row.1 = id then (row.1, f row.2) else row⟩

/-- Removes the row of an identity. -/
def erase (t : Table s α) (id : Identity s) : Table s α :=
  ⟨t.next, t.rows.filter fun row => row.1 ≠ id⟩

end Table

end OrderedStore
