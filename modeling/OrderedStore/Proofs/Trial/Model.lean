import Mathlib.Data.List.Nodup
import OrderedStore.Proofs.Keyspace
import OrderedStore.Trial.Model

/-!
# The plain model agrees

The model agrees with a keyspace if its pairs are the entries of the keyspace in some order.
Every write keeps that up, so after the same writes the two agree still.
-/

set_option autoImplicit false

namespace OrderedStore

namespace Trial.Model

variable {model : Model} {m : Keyspace}

theorem perm_apply (h : model.pairs.Perm m.entries) (mutation : Mutation) :
    (model.apply mutation).pairs.Perm (m.apply mutation).entries := by
  cases mutation with
  | put key value =>
    have hkept := (h.filter fun pair => pair.1 ≠ key).cons (key, value)
    exact hkept.trans (Keyspace.perm_insertEntry m.ascending key value).symm
  | delete key => exact h.filter _

theorem perm_applyAll (h : model.pairs.Perm m.entries) (mutations : List Mutation) :
    (model.applyAll mutations).pairs.Perm (m.applyAll mutations).entries := by
  induction mutations generalizing model m with
  | nil => exact h
  | cons mutation rest ih => exact ih (perm_apply h mutation)

/-- The model agrees with the entries of a keyspace if it has their pairs in some order. -/
theorem agrees_iff : model.agrees m.entries = true ↔ model.pairs.Perm m.entries := by
  unfold agrees sorted
  rw [decide_eq_true_eq]
  have hperm := List.mergeSort_perm model.pairs fun a b => decide ¬ b.1 < a.1
  constructor
  · intro heq
    rw [heq] at hperm
    exact hperm.symm
  · intro h
    have hsorted : (model.pairs.mergeSort fun a b => decide ¬ b.1 < a.1).Pairwise
        fun a b => decide (¬ b.1 < a.1) = true := by
      refine List.pairwise_mergeSort ?_ ?_ _
      · intro a b c hab hbc
        simp only [decide_eq_true_eq] at hab hbc ⊢
        intro hca
        rcases Bytes.lt_or_eq_or_gt a.1 b.1 with hlt | heq | hgt
        · exact hbc (Bytes.lt_trans hca hlt)
        · exact hbc (heq ▸ hca)
        · exact hab hgt
      · intro a b
        by_cases hba : b.1 < a.1
        · simp [hba, Bytes.lt_asymm hba]
        · simp [hba]
    have hascending : m.entries.Pairwise fun a b => decide (¬ b.1 < a.1) = true :=
      m.ascending.imp fun hlt => decide_eq_true (Bytes.lt_asymm hlt)
    -- Both lists are in order, and entries of one key among those of a keyspace are one.
    refine (hperm.trans h).eq_of_pairwise (fun a b ha hb hab hba => ?_) hsorted hascending
    simp only [decide_eq_true_eq] at hab hba
    have hkey : a.1 = b.1 := Bytes.eq_of_not_lt hba hab
    exact List.inj_on_of_nodup_map m.ascending.nodup_keys ((hperm.trans h).mem_iff.mp ha) hb hkey

theorem agrees_applyAll (h : model.agrees m.entries = true) (mutations : List Mutation) :
    (model.applyAll mutations).agrees (m.applyAll mutations).entries = true :=
  agrees_iff.mpr (perm_applyAll (agrees_iff.mp h) mutations)

end Trial.Model

end OrderedStore
