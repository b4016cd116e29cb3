import OrderedStore.Batch

/-!
# A plain model of the keyspace

The model is a list of pairs in no particular order, with at most one pair to a key.
It does the same writes as a keyspace by other means, so the two can be held
against each other: they agree if the sorted pairs are the entries.
-/

set_option autoImplicit false

namespace OrderedStore.Trial

/-- Pairs of keys and values, last written first. -/
structure Model where
  pairs : List Entry
  deriving DecidableEq, Repr

namespace Model

/-- The model without pairs. -/
def empty : Model := ⟨[]⟩

/-- Removes the pair of a key. -/
def remove (m : Model) (key : Bytes) : Model := ⟨m.pairs.filter fun pair => pair.1 ≠ key⟩

/-- Puts a pair in the place of the one with the same key. -/
def replace (m : Model) (key value : Bytes) : Model := ⟨(key, value) :: (m.remove key).pairs⟩

/-- The value of a key. -/
def value? (m : Model) (key : Bytes) : Option Bytes := m.pairs.lookup key

/-- The model after one write. -/
def apply (m : Model) : Mutation → Model
  | .put key value => m.replace key value
  | .delete key => m.remove key

/-- The model after a list of writes. -/
def applyAll (m : Model) (mutations : List Mutation) : Model := mutations.foldl apply m

/-- The pairs in the order of their keys. -/
def sorted (m : Model) : List Entry := m.pairs.mergeSort fun a b => ¬ b.1 < a.1

/-- Do the model and a list of entries agree? -/
def agrees (m : Model) (entries : List Entry) : Bool := m.sorted = entries

end Model

end OrderedStore.Trial
