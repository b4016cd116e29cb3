import Mathlib.Data.List.Induction
import OrderedStore.Proofs.Keyspace

/-!
# Folds of writes

A list of writes is applied from the left.  What a key has afterwards is settled by the last
write to it alone, and a key that no write names keeps what it had: `get?_applyAll`.  All
the laws of the module come from this one equation, key by key.

A batch has the operations that have been queued since it was last emptied.
-/

set_option autoImplicit false

namespace OrderedStore

/-! ## The last write to a key -/

namespace Mutation

/-- The key that is written to. -/
def key : Mutation → Bytes
  | .put key _ | .delete key => key

/-- What the key has afterwards. -/
def value? : Mutation → Option Bytes
  | .put _ value => some value
  | .delete _ => none

/-- The last of a list of writes to a key. -/
def lastOn? (mutations : List Mutation) (key : Bytes) : Option Mutation :=
  (mutations.filter fun mutation => mutation.key = key).getLast?

theorem lastOn?_cons (mutation : Mutation) (mutations : List Mutation) (key : Bytes) :
    lastOn? (mutation :: mutations) key =
      if mutation.key = key then some ((lastOn? mutations key).getD mutation)
      else lastOn? mutations key := by
  unfold lastOn?
  split
  · rename_i heq
    rw [List.filter_cons_of_pos (by simpa using heq), List.getLast?_cons]
  · rename_i hne
    rw [List.filter_cons_of_neg (by simpa using hne)]

theorem lastOn?_append_self (mutations : List Mutation) (key : Bytes) :
    lastOn? (mutations ++ mutations) key = lastOn? mutations key := by
  unfold lastOn?
  rw [List.filter_append, List.getLast?_append, Option.or_self]

end Mutation

namespace Keyspace

open Mutation

theorem get?_apply (m : Keyspace) (mutation : Mutation) (key : Bytes) :
    (m.apply mutation).get? key =
      if mutation.key = key then mutation.value? else m.get? key := by
  cases mutation with
  | put written value =>
    rw [apply, get?_insert]
    simp only [Mutation.key, value?, eq_comm]
  | delete written =>
    rw [apply, get?_erase]
    simp only [Mutation.key, value?, eq_comm]

/-- The last write to a key decides; a key that is not written to keeps its value. -/
theorem get?_applyAll (m : Keyspace) (mutations : List Mutation) (key : Bytes) :
    (m.applyAll mutations).get? key =
      ((lastOn? mutations key).map value?).getD (m.get? key) := by
  induction mutations generalizing m with
  | nil => rfl
  | cons mutation rest ih =>
    have hstep : m.applyAll (mutation :: rest) = (m.apply mutation).applyAll rest := rfl
    rw [hstep, ih, get?_apply, lastOn?_cons]
    split
    · cases lastOn? rest key <;> rfl
    · rfl

theorem applyAll_append (m : Keyspace) (mutations more : List Mutation) :
    m.applyAll (mutations ++ more) = (m.applyAll mutations).applyAll more :=
  List.foldl_append

/-- Lists with the same last write to every key make the same map. -/
theorem applyAll_congr (m : Keyspace) {mutations others : List Mutation}
    (h : ∀ key, lastOn? mutations key = lastOn? others key) :
    m.applyAll mutations = m.applyAll others := by
  refine ext_get? fun key => ?_
  rw [get?_applyAll, get?_applyAll, h]

/-- Writing the same list twice is writing it once. -/
theorem applyAll_append_self (m : Keyspace) (mutations : List Mutation) :
    m.applyAll (mutations ++ mutations) = m.applyAll mutations :=
  m.applyAll_congr (lastOn?_append_self mutations)

end Keyspace

/-! ## Filling a batch -/

namespace Batch

/-- The ways to change a batch. -/
inductive Filling where
  | put (key value : Bytes)
  | putOption (key : Bytes) (value : Option Bytes)
  | delete (key : Bytes)
  | clear
  deriving DecidableEq

/-- Changes a batch. -/
def fill (batch : Batch) : Filling → Batch
  | .put key value => batch.put key value
  | .putOption key value => batch.putOption key value
  | .delete key => batch.delete key
  | .clear => .empty

/-- What a filling queues; emptying queues nothing. -/
def Filling.mutation? : Filling → Option Mutation
  | .put key value => some (.put key value)
  | .putOption key (some value) => some (.put key value)
  | .putOption key none | .delete key => some (.delete key)
  | .clear => none

/-- What has been queued since the batch was last emptied. -/
def queued (fillings : List Filling) : List Mutation :=
  (fillings.reverse.takeWhile (· ≠ .clear)).reverse.filterMap Filling.mutation?

theorem operations_fill (batch : Batch) {filling : Filling} (h : filling ≠ .clear) :
    (batch.fill filling).operations = batch.operations ++ filling.mutation?.toList := by
  cases filling with
  | put key value => rfl
  | putOption key value => cases value <;> rfl
  | delete key => rfl
  | clear => exact absurd rfl h

theorem operations_foldl_fill (fillings : List Filling) :
    (fillings.foldl fill empty).operations = queued fillings := by
  induction fillings using List.reverseRecOn with
  | nil => rfl
  | append_singleton before filling ih =>
    rw [List.foldl_append, List.foldl_cons, List.foldl_nil]
    unfold queued
    rw [List.reverse_append, List.reverse_singleton, List.singleton_append]
    by_cases h : filling = .clear
    · rw [h, List.takeWhile_cons_of_neg (by simp)]
      rfl
    · rw [operations_fill _ h, ih, List.takeWhile_cons_of_pos (by simpa using h), queued,
        List.reverse_cons, List.filterMap_append]
      cases hmutation : filling.mutation? <;> simp [hmutation]

theorem operations_foldl_push (batch : Batch) (mutations : List Mutation) :
    (mutations.foldl push batch).operations = batch.operations ++ mutations := by
  induction mutations generalizing batch with
  | nil => exact (List.append_nil _).symm
  | cons mutation rest ih =>
    rw [List.foldl_cons, ih, push, List.append_assoc, List.singleton_append]

theorem operations_ofList (mutations : List Mutation) :
    (ofList mutations).operations = mutations :=
  operations_foldl_push empty mutations

end Batch

end OrderedStore
