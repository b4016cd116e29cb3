import OrderedStore.Keyspace

/-!
# Write batches

A batch is a list of puts and deletes in the order in which they were queued.
Applying one is a fold over that list from the left, so of several operations on
a key the last one decides.  Applying a batch does not use it up.
-/

set_option autoImplicit false

namespace OrderedStore

/-- One write to a keyspace. -/
inductive Mutation where
  | put (key value : Bytes)
  | delete (key : Bytes)
  deriving DecidableEq, Repr

/-- A put where there is a value, a delete where there is none. -/
def Mutation.ofOption (key : Bytes) : Option Bytes → Mutation
  | some value => .put key value
  | none => .delete key

namespace Keyspace

/-- The keyspace after one write. -/
def apply (m : Keyspace) : Mutation → Keyspace
  | .put key value => m.insert key value
  | .delete key => m.erase key

/-- The keyspace after a list of writes. -/
def applyAll (m : Keyspace) (mutations : List Mutation) : Keyspace :=
  mutations.foldl apply m

end Keyspace

/-- Queued operations, oldest first. -/
structure Batch where
  operations : List Mutation
  deriving DecidableEq, Repr

namespace Batch

/-- A batch with nothing in it. -/
def empty : Batch := ⟨[]⟩

/-- Queues one operation. -/
def push (batch : Batch) (mutation : Mutation) : Batch :=
  ⟨batch.operations ++ [mutation]⟩

/-- Queues a put. -/
def put (batch : Batch) (key value : Bytes) : Batch := batch.push (.put key value)

/-- Queues a delete. -/
def delete (batch : Batch) (key : Bytes) : Batch := batch.push (.delete key)

/-- Queues a put, or a delete where there is no value. -/
def putOption (batch : Batch) (key : Bytes) (value : Option Bytes) : Batch :=
  batch.push (.ofOption key value)

/-- The number of queued operations. -/
def size (batch : Batch) : Nat := batch.operations.length

/-- Is nothing queued? -/
def isEmpty (batch : Batch) : Bool := batch.operations.isEmpty

/-- The batch of a list of operations. -/
def ofList (mutations : List Mutation) : Batch := mutations.foldl push empty

end Batch

end OrderedStore
