import Mathlib.Data.List.Nodup
import Mathlib.Data.List.Perm.Subperm
import OrderedStore.Proofs.Handle.Change

/-!
# Registries refine maps whose keys are never used again

A `Ledger` is a registry as its user sees it: the tokens that were handed out, and
those of them that still stand for something, each with the thing that was put in under
it.  `Ledger.note` keeps it from the operations and their results alone, so a ledger
knows nothing of slots, generations and free lists.

`registry_refines_ledger` says that after every sequence of operations a registry is
governed by its ledger: every one of the 2^64 tokens finds what the ledger has for
it, and nothing if the ledger has nothing.
-/

set_option autoImplicit false

namespace OrderedStore

/-! ## Runs of a registry -/

namespace Registry

/-- The operations on a registry. -/
inductive Operation (α : Type) where
  | insert (v : α)
  | get (t : Token)
  | remove (t : Token)
  | removeWhere (p : α → Bool)
  | size

/-- What the operations give. -/
inductive Result (α : Type) where
  | token (outcome : Except HandleFault Token)
  | thing (outcome : Except HandleFault α)
  | things (removed : List α)
  | count (n : Nat)

variable {α : Type}

/-- Carries out one operation. -/
def perform (r : Registry α) : Operation α → Registry α × Result α
  | .insert v => ((r.insert v).1, .token (r.insert v).2)
  | .get t => (r, .thing (r.get t))
  | .remove t => ((r.remove t).1, .thing (r.remove t).2)
  | .removeWhere p => ((r.removeWhere p).1, .things (r.removeWhere p).2)
  | .size => (r, .count r.size)

/-- Carries out operations one after the other and keeps what each of them gave. -/
def run (r : Registry α) : List (Operation α) → Registry α × List (Operation α × Result α)
  | [] => (r, [])
  | operation :: rest =>
    let (r, result) := r.perform operation
    let (r, history) := r.run rest
    (r, (operation, result) :: history)

end Registry

/-! ## Ledgers -/

/-- The tokens that were handed out, and the things that some of them stand for. -/
structure Ledger (α : Type) where
  issued : List Token
  held : List (Token × α)

namespace Ledger

variable {α : Type}

/-- The ledger of a registry with nothing in it. -/
def empty : Ledger α := ⟨[], []⟩

/-- Notes that a token has been handed out for a thing. -/
def give (l : Ledger α) (t : Token) (v : α) : Ledger α :=
  ⟨l.issued ++ [t], l.held ++ [(t, v)]⟩

/-- Notes that everything that satisfies a condition has been removed. -/
def strike (l : Ledger α) (gone : Token → α → Bool) : Ledger α :=
  ⟨l.issued, l.held.filter fun entry => !gone entry.1 entry.2⟩

/-- Keeps a ledger by an operation and its result. -/
def note (l : Ledger α) : Registry.Operation α × Registry.Result α → Ledger α
  | (.insert v, .token (.ok t)) => l.give t v
  | (.remove t, .thing (.ok _)) => l.strike fun u _ => u = t
  | (.removeWhere p, _) => l.strike fun _ v => p v
  | _ => l

/-- The ledger of all that has happened since a registry was empty. -/
def ofHistory (history : List (Registry.Operation α × Registry.Result α)) : Ledger α :=
  history.foldl note empty

/-- A registry answers every question as its ledger says, and goes on handing out new
tokens until there are none left. -/
structure Governs (l : Ledger α) (kind : HandleKind) (r : Registry α) : Prop where
  nodup_issued : l.issued.Nodup
  zero_not_issued : 0 ∉ l.issued
  nodup_held : (l.held.map Prod.fst).Nodup
  insert_fresh : ∀ {v : α} {t : Token}, (r.insert v).2 = .ok t → t ≠ 0 ∧ t ∉ l.issued
  insert_exhausted : ∀ {v : α} {fault : HandleFault}, (r.insert v).2 = .error fault →
    fault = .exhausted kind ∧ (r.insert v).1 = r ∧ Registry.slotLimit ≤ l.issued.length
  get_iff : ∀ {t : Token} {v : α}, r.get t = .ok v ↔ (t, v) ∈ l.held
  remove_iff : ∀ {t : Token} {v : α}, (r.remove t).2 = .ok v ↔ (t, v) ∈ l.held
  /-- No two tokens find the same slot. -/
  locate_inj : ∀ {t u : Token} {index : Nat} {v w : α},
    r.locate t = .ok (index, v) → r.locate u = .ok (index, w) → t = u
  fault_of_not_held : ∀ {t : Token}, (∀ v, (t, v) ∉ l.held) →
    r.get t = .error (Registry.faultOf kind t) ∧
      r.remove t = (r, .error (Registry.faultOf kind t))
  removeWhere_eq : ∃ inOrder : List (Token × α), inOrder.Perm l.held ∧
    inOrder.Pairwise (fun a b => a.1.place < b.1.place) ∧
    ∀ p : α → Bool,
      (r.removeWhere p).2 = (inOrder.filter fun entry => p entry.2).map Prod.snd
  removeWhere_get : ∀ {p : α → Bool} {t : Token} {v : α},
    (r.removeWhere p).1.get t = .ok v ↔ (t, v) ∈ l.held ∧ p v = false
  size_eq : r.size = l.held.length

/-! ## What operations keep -/

/-- The ledger agrees with the slots of the registry. -/
structure Describes (l : Ledger α) (kind : HandleKind) (r : Registry α) : Prop where
  wellFormed : r.WellFormed
  kind_eq : r.kind = kind
  mem_issued_iff : ∀ t, t ∈ l.issued ↔ r.Issued t
  mem_held_iff : ∀ t v, (t, v) ∈ l.held ↔ r.Holds t v
  nodup_issued : l.issued.Nodup
  nodup_held : (l.held.map Prod.fst).Nodup

theorem describes_empty (kind : HandleKind) : (empty : Ledger α).Describes kind (.empty kind) where
  wellFormed := Registry.wellFormed_empty kind
  kind_eq := rfl
  mem_issued_iff _ := ⟨fun h => absurd h List.not_mem_nil,
    fun h => absurd h Registry.not_issued_empty⟩
  mem_held_iff _ _ := ⟨fun h => absurd h List.not_mem_nil,
    fun h => absurd h Registry.not_holds_empty⟩
  nodup_issued := List.nodup_nil
  nodup_held := List.nodup_nil

variable {l : Ledger α} {kind : HandleKind} {r : Registry α}

theorem Describes.give {r' : Registry α} {t : Token} {v : α}
    (h : l.Describes kind r) (hinserted : r.Inserted r' t v) : (l.give t v).Describes kind r' := by
  have hnew : t ∉ l.issued := fun hmem => hinserted.fresh ((h.mem_issued_iff t).mp hmem)
  refine ⟨hinserted.wellFormed, hinserted.kind_eq.trans h.kind_eq, fun u => ?_, fun u w => ?_,
    ?_, ?_⟩
  · rw [hinserted.issued_iff, ← h.mem_issued_iff, Ledger.give, List.mem_append,
      List.mem_singleton]
    exact Or.comm
  · rw [hinserted.holds_iff, ← h.mem_held_iff, Ledger.give, List.mem_append,
      List.mem_singleton, Prod.mk.injEq]
    exact Or.comm
  · refine List.nodup_append.mpr ⟨h.nodup_issued, List.nodup_singleton t, ?_⟩
    intro u hu w hw heq
    rw [List.mem_singleton.mp hw] at heq
    exact hnew (heq ▸ hu)
  · rw [Ledger.give, List.map_append]
    refine List.nodup_append.mpr ⟨h.nodup_held, List.nodup_singleton t, ?_⟩
    intro u hu w hw heq
    rw [List.mem_singleton.mp hw] at heq
    obtain ⟨⟨u', v'⟩, hmem, rfl⟩ := List.mem_map.mp hu
    have hissued := ((h.mem_held_iff u' v').mp hmem).issued h.wellFormed
    have heq' : u' = t := heq
    exact hnew (heq' ▸ (h.mem_issued_iff u').mpr hissued)

theorem Describes.strike {r' : Registry α} {gone : Token → α → Bool}
    (h : l.Describes kind r) (hremoved : r.Removed r' fun u w => gone u w = true) :
    (l.strike gone).Describes kind r' := by
  refine ⟨hremoved.wellFormed, hremoved.kind_eq.trans h.kind_eq, fun u => ?_, fun u w => ?_,
    h.nodup_issued, ?_⟩
  · rw [hremoved.issued_iff, ← h.mem_issued_iff]
    rfl
  · rw [hremoved.holds_iff, ← h.mem_held_iff, Ledger.strike, List.mem_filter]
    simp
  · exact List.Sublist.nodup (List.filter_sublist.map Prod.fst) h.nodup_held

/-- One operation keeps the ledger in step with the registry. -/
theorem Describes.perform (h : l.Describes kind r)
    (operation : Registry.Operation α) :
    (l.note (operation, (r.perform operation).2)).Describes kind (r.perform operation).1 := by
  cases operation with
  | insert v =>
    rcases Registry.insert_spec h.wellFormed v with ⟨r', t, heq, hinserted⟩ | ⟨heq, _, _⟩
    · simp only [Registry.perform, heq, note]
      exact h.give hinserted
    · simp only [Registry.perform, heq, note]
      exact h
  | get t => exact h
  | remove t =>
    by_cases hheld : ∃ v, r.Holds t v
    · obtain ⟨v, hv⟩ := hheld
      obtain ⟨r', heq, hremoved⟩ := Registry.remove_of_holds h.wellFormed hv
      simp only [Registry.perform, heq, note]
      exact h.strike (by simpa using hremoved)
    · have heq := Registry.remove_of_not_holds h.wellFormed (not_exists.mp hheld)
      simp only [Registry.perform, heq, note]
      exact h
  | removeWhere p => exact h.strike (Registry.removed_removeWhere h.wellFormed p)
  | size => exact h

/-- So does a whole run. -/
theorem Describes.run (h : l.Describes kind r)
    (operations : List (Registry.Operation α)) :
    ((r.run operations).2.foldl note l).Describes kind (r.run operations).1 := by
  induction operations generalizing l r with
  | nil => exact h
  | cons operation rest ih => exact ih (h.perform operation)

/-! ## What a ledger tells about its registry -/

theorem Describes.not_holds (h : l.Describes kind r) {t : Token}
    (hnone : ∀ v, (t, v) ∉ l.held) (v : α) : ¬ r.Holds t v :=
  fun hv => hnone v ((h.mem_held_iff t v).mpr hv)

/-- Every slot has issued the token of its first generation. -/
theorem Describes.slots_le (h : l.Describes kind r) :
    r.slots.size ≤ l.issued.length := by
  have hissued : ∀ index < r.slots.size, r.Issued (Token.make r.kind 0 index) := by
    intro index hlt
    have hslot : r.slots[index]? = some r.slots[index] := Array.getElem?_eq_getElem hlt
    refine ⟨index, r.slots[index], 0, hslot, rfl, ?_⟩
    rcases Nat.eq_zero_or_pos r.slots[index].generation with hzero | hpos
    · refine Or.inr ⟨hzero.symm, fun hmem => ?_⟩
      obtain ⟨generation, hvacant⟩ := h.wellFormed.vacant_of_free hmem
      rw [hslot] at hvacant
      rw [Option.some.inj hvacant] at hzero
      simp at hzero
    · exact Or.inl hpos
  -- These tokens differ, so the ledger has at least as many as there are slots.
  have hnodup : ((List.range r.slots.size).map (Token.make r.kind 0)).Nodup := by
    refine List.Nodup.map_on ?_ List.nodup_range
    intro i hi j hj heq
    have hi' := h.wellFormed.index_lt (Array.getElem?_eq_getElem (List.mem_range.mp hi))
    have hj' := h.wellFormed.index_lt (Array.getElem?_eq_getElem (List.mem_range.mp hj))
    exact (Token.make_inj (by decide) hi' (by decide) hj' heq).2
  have hsubset : (List.range r.slots.size).map (Token.make r.kind 0) ⊆ l.issued := by
    intro t ht
    obtain ⟨index, hmem, rfl⟩ := List.mem_map.mp ht
    exact (h.mem_issued_iff _).mpr (hissued index (List.mem_range.mp hmem))
  simpa using (List.subperm_of_subset hnodup hsubset).length_le

theorem Describes.perm_holdings (h : l.Describes kind r) :
    r.holdings.Perm l.held := by
  have hnodup := (Registry.nodup_holdings h.wellFormed).of_map
  refine (List.perm_ext_iff_of_nodup hnodup h.nodup_held.of_map).mpr fun entry => ?_
  obtain ⟨t, v⟩ := entry
  rw [Registry.mem_holdings_iff, h.mem_held_iff]

theorem Describes.governs (h : l.Describes kind r) :
    l.Governs kind r where
  nodup_issued := h.nodup_issued
  zero_not_issued hmem := ((h.mem_issued_iff 0).mp hmem).ne_zero h.wellFormed rfl
  nodup_held := h.nodup_held
  insert_fresh {v t} hok := by
    rcases Registry.insert_spec h.wellFormed v with ⟨r', u, heq, hinserted⟩ | ⟨heq, _, _⟩
    · rw [heq] at hok
      obtain rfl := Except.ok.inj hok
      have hissued := (hinserted.issued_iff u).mpr (Or.inl rfl)
      refine ⟨hissued.ne_zero hinserted.wellFormed, fun hmem => ?_⟩
      exact hinserted.fresh ((h.mem_issued_iff u).mp hmem)
    · rw [heq] at hok
      simp at hok
  insert_exhausted {v fault} herror := by
    rcases Registry.insert_spec h.wellFormed v with ⟨r', u, heq, _⟩ | ⟨heq, _, hsize⟩
    · rw [heq] at herror
      simp at herror
    · rw [heq, h.kind_eq] at herror
      exact ⟨(Except.error.inj herror).symm, by rw [heq], hsize ▸ h.slots_le⟩
  get_iff {t v} := (Registry.get_eq_ok_iff h.wellFormed).trans (h.mem_held_iff t v).symm
  remove_iff {t v} := by
    rw [h.mem_held_iff]
    constructor
    · intro hok
      by_cases hheld : ∃ w, r.Holds t w
      · obtain ⟨w, hw⟩ := hheld
        obtain ⟨r', heq, _⟩ := Registry.remove_of_holds h.wellFormed hw
        rw [heq] at hok
        exact Except.ok.inj hok ▸ hw
      · rw [Registry.remove_of_not_holds h.wellFormed (not_exists.mp hheld)] at hok
        simp at hok
    · intro hv
      obtain ⟨r', heq, _⟩ := Registry.remove_of_holds h.wellFormed hv
      rw [heq]
  locate_inj ht hu := ((Registry.locate_eq_ok_iff h.wellFormed).mp ht).token_eq
    ((Registry.locate_eq_ok_iff h.wellFormed).mp hu)
  fault_of_not_held hnone := by
    rw [← h.kind_eq]
    exact ⟨Registry.get_of_not_holds h.wellFormed (h.not_holds hnone),
      Registry.remove_of_not_holds h.wellFormed (h.not_holds hnone)⟩
  removeWhere_eq := ⟨r.holdings, h.perm_holdings, Registry.pairwise_holdings h.wellFormed,
    Registry.removeWhere_eq_filter_holdings r⟩
  removeWhere_get {p t v} := by
    have hremoved := Registry.removed_removeWhere h.wellFormed p
    rw [Registry.get_eq_ok_iff hremoved.wellFormed, hremoved.holds_iff, h.mem_held_iff]
    simp
  size_eq := by rw [Registry.size_eq_length_holdings, h.perm_holdings.length_eq]

/-- After every sequence of operations the registry answers as its ledger says: no token
is ever handed out twice, and a token finds what was put in under it from its handing out
to its removal and nothing at any other time. -/
theorem registry_refines_ledger (kind : HandleKind) (operations : List (Registry.Operation α)) :
    (ofHistory ((Registry.empty kind).run operations).2).Governs kind
      ((Registry.empty kind).run operations).1 := by
  have hdescribes := (describes_empty kind).run operations
  exact hdescribes.governs

end Ledger

end OrderedStore
