import OrderedStore.Proofs.Handle.Ledger
import OrderedStore.Proofs.Table

/-!
# Looking things up in a ledger

A ledger that describes a registry says what every token finds there, what is found
after a thing has been added, changed or removed, and in which order things are given
back that are removed by a condition.
-/

set_option autoImplicit false

namespace OrderedStore

namespace Ledger

variable {α : Type}

/-- The thing that a token stands for. -/
def find? (l : Ledger α) (t : Token) : Option α :=
  (l.held.find? fun entry => entry.1 = t).map Prod.snd

/-- Notes that the thing of a token has become another one. -/
def alter (l : Ledger α) (t : Token) (v : α) : Ledger α :=
  ⟨l.issued, l.held.map fun entry => if entry.1 = t then (t, v) else entry⟩

/-- What is held, in the order of the places that the tokens name. -/
def inOrder (l : Ledger α) : List (Token × α) :=
  l.held.mergeSort fun a b => a.1.place ≤ b.1.place

/-- No token is held twice, and every token that is held has been handed out and is not
the null token. -/
structure Valid (l : Ledger α) : Prop where
  nodup : (l.held.map Prod.fst).Nodup
  issued : ∀ {t : Token} {v : α}, (t, v) ∈ l.held → t ∈ l.issued
  zero : 0 ∉ l.issued

variable {l : Ledger α}

theorem valid_empty : (empty : Ledger α).Valid where
  nodup := List.nodup_nil
  issued h := absurd h List.not_mem_nil
  zero := List.not_mem_nil

theorem mem_give {t u : Token} {v w : α} :
    (u, w) ∈ (l.give t v).held ↔ (u, w) ∈ l.held ∨ u = t ∧ w = v := by
  rw [give, List.mem_append, List.mem_singleton, Prod.mk.injEq]

theorem mem_strike {gone : Token → α → Bool} {u : Token} {w : α} :
    (u, w) ∈ (l.strike gone).held ↔ (u, w) ∈ l.held ∧ gone u w = false := by
  rw [strike, List.mem_filter, Bool.not_eq_true']

namespace Valid

theorem find?_eq_some_iff (h : l.Valid) {t : Token} {v : α} :
    l.find? t = some v ↔ (t, v) ∈ l.held := by
  unfold find?
  constructor
  · intro hfind
    obtain ⟨⟨u, w⟩, hfound, rfl⟩ := Option.map_eq_some_iff.mp hfind
    have heq := List.find?_some hfound
    simp only [decide_eq_true_eq] at heq
    rw [← heq]
    exact List.mem_of_find?_eq_some hfound
  · intro hmem
    rw [Table.find?_of_mem h.nodup hmem]
    rfl

theorem find?_eq_none_iff (h : l.Valid) {t : Token} :
    l.find? t = none ↔ ∀ v, (t, v) ∉ l.held := by
  constructor
  · intro hnone v hmem
    rw [h.find?_eq_some_iff.mpr hmem] at hnone
    simp at hnone
  · intro hnone
    cases hfind : l.find? t with
    | none => rfl
    | some v => exact absurd (h.find?_eq_some_iff.mp hfind) (hnone v)

theorem find?_zero (h : l.Valid) : l.find? 0 = none :=
  h.find?_eq_none_iff.mpr fun _ hmem => h.zero (h.issued hmem)

theorem functional (h : l.Valid) {t : Token} {v w : α} (hv : (t, v) ∈ l.held)
    (hw : (t, w) ∈ l.held) : v = w := by
  rw [← h.find?_eq_some_iff] at hv hw
  rw [hv] at hw
  exact Option.some.inj hw

theorem give (h : l.Valid) {t : Token} (hzero : t ≠ 0) (hnew : t ∉ l.issued) (v : α) :
    (l.give t v).Valid where
  nodup := by
    rw [Ledger.give, List.map_append]
    refine List.nodup_append.mpr ⟨h.nodup, List.nodup_singleton t, ?_⟩
    intro u hu w hw heq
    obtain ⟨⟨u', v'⟩, hmem, rfl⟩ := List.mem_map.mp hu
    have hsame : u' = t := heq.trans (List.mem_singleton.mp hw)
    exact hnew (hsame ▸ h.issued hmem)
  issued {u w} hmem := by
    rcases mem_give.mp hmem with hold | ⟨rfl, _⟩
    · exact List.mem_append_left _ (h.issued hold)
    · exact List.mem_append_right _ List.mem_cons_self
  zero hmem := by
    rcases List.mem_append.mp hmem with hold | hnew'
    · exact h.zero hold
    · exact hzero (List.mem_singleton.mp hnew').symm

theorem strike (h : l.Valid) (gone : Token → α → Bool) : (l.strike gone).Valid where
  nodup := List.Sublist.nodup (List.filter_sublist.map Prod.fst) h.nodup
  issued hmem := h.issued (mem_strike.mp hmem).1
  zero := h.zero

theorem find?_give (h : l.Valid) {t : Token} (hzero : t ≠ 0) (hnew : t ∉ l.issued) (v : α)
    (u : Token) : (l.give t v).find? u = if u = t then some v else l.find? u := by
  have hvalid := h.give hzero hnew v
  split
  · rename_i heq
    exact hvalid.find?_eq_some_iff.mpr (mem_give.mpr (Or.inr ⟨heq, rfl⟩))
  · rename_i hne
    refine Option.ext fun w => ?_
    rw [hvalid.find?_eq_some_iff, h.find?_eq_some_iff, mem_give]
    simp [hne]

theorem find?_strike (h : l.Valid) (gone : Token → α → Bool) (u : Token) :
    (l.strike gone).find? u = (l.find? u).filter fun w => !gone u w := by
  refine Option.ext fun w => ?_
  rw [(h.strike gone).find?_eq_some_iff, mem_strike, Option.filter_eq_some_iff,
    h.find?_eq_some_iff, Bool.not_eq_true']

end Valid

theorem mem_alter {t u : Token} {v w : α} :
    (u, w) ∈ (l.alter t v).held ↔ ∃ x, (u, x) ∈ l.held ∧ w = if u = t then v else x := by
  rw [alter, List.mem_map]
  constructor
  · rintro ⟨⟨u', x⟩, hmem, heq⟩
    simp only at heq
    split at heq
    · rename_i hsame
      obtain ⟨rfl, rfl⟩ := Prod.mk.inj heq
      exact ⟨x, hsame ▸ hmem, (if_pos rfl).symm⟩
    · rename_i hne
      obtain ⟨rfl, rfl⟩ := Prod.mk.inj heq
      exact ⟨x, hmem, (if_neg hne).symm⟩
  · rintro ⟨x, hmem, rfl⟩
    refine ⟨(u, x), hmem, ?_⟩
    simp only
    split
    · rename_i heq
      rw [heq]
    · rfl

theorem map_fst_alter (l : Ledger α) (t : Token) (v : α) :
    (l.alter t v).held.map Prod.fst = l.held.map Prod.fst := by
  rw [alter, List.map_map]
  refine List.map_congr_left fun entry _ => ?_
  simp only [Function.comp_apply]
  split
  · rename_i heq
    exact heq.symm
  · rfl

theorem Valid.alter (h : l.Valid) (t : Token) (v : α) : (l.alter t v).Valid where
  nodup := by
    rw [map_fst_alter]
    exact h.nodup
  issued hmem := by
    obtain ⟨x, hold, _⟩ := mem_alter.mp hmem
    exact h.issued hold
  zero := h.zero

theorem Valid.find?_alter (h : l.Valid) (t : Token) (v : α) (u : Token) :
    (l.alter t v).find? u = (l.find? u).map fun x => if u = t then v else x := by
  refine Option.ext fun w => ?_
  rw [(h.alter t v).find?_eq_some_iff, mem_alter, Option.map_eq_some_iff]
  constructor
  · rintro ⟨x, hmem, rfl⟩
    exact ⟨x, h.find?_eq_some_iff.mpr hmem, rfl⟩
  · rintro ⟨x, hfind, rfl⟩
    exact ⟨x, h.find?_eq_some_iff.mp hfind, rfl⟩

/-! ## Ledgers of registries -/

namespace Describes

variable {kind : HandleKind} {r : Registry α}

theorem valid (h : l.Describes kind r) : l.Valid where
  nodup := h.nodup_held
  issued hmem := (h.mem_issued_iff _).mpr (((h.mem_held_iff _ _).mp hmem).issued h.wellFormed)
  zero hmem := ((h.mem_issued_iff 0).mp hmem).ne_zero h.wellFormed rfl

theorem get_eq (h : l.Describes kind r) (t : Token) :
    r.get t = match l.find? t with
      | some v => .ok v
      | none => .error (Registry.faultOf kind t) := by
  cases hfind : l.find? t with
  | some v =>
    have hmem := h.valid.find?_eq_some_iff.mp hfind
    exact (Registry.get_eq_ok_iff h.wellFormed).mpr ((h.mem_held_iff t v).mp hmem)
  | none =>
    have hnone := h.valid.find?_eq_none_iff.mp hfind
    show _ = Except.error (Registry.faultOf kind t)
    rw [← h.kind_eq]
    exact Registry.get_of_not_holds h.wellFormed (h.not_holds hnone)

theorem remove_of_find? (h : l.Describes kind r) {t : Token} {v : α} (hfind : l.find? t = some v) :
    ∃ r', r.remove t = (r', .ok v) ∧ (l.strike fun u _ => u = t).Describes kind r' := by
  have hheld := (h.mem_held_iff t v).mp (h.valid.find?_eq_some_iff.mp hfind)
  obtain ⟨r', heq, hremoved⟩ := Registry.remove_of_holds h.wellFormed hheld
  exact ⟨r', heq, h.strike (by simpa using hremoved)⟩

theorem remove_of_none (h : l.Describes kind r) {t : Token} (hfind : l.find? t = none) :
    r.remove t = (r, .error (Registry.faultOf kind t)) := by
  have hnone := h.valid.find?_eq_none_iff.mp hfind
  rw [← h.kind_eq]
  exact Registry.remove_of_not_holds h.wellFormed (h.not_holds hnone)

theorem modify (h : l.Describes kind r) {t : Token} {v : α} (f : α → α)
    (hfind : l.find? t = some v) : (l.alter t (f v)).Describes kind (r.modify t f) := by
  have hmodified := Registry.modified_modify h.wellFormed t f
  have hvalid := h.valid
  refine ⟨hmodified.wellFormed, hmodified.kind_eq.trans h.kind_eq, fun u => ?_, fun u w => ?_,
    h.nodup_issued, ?_⟩
  · rw [hmodified.issued_iff, ← h.mem_issued_iff]
    rfl
  · rw [hmodified.holds_iff, mem_alter]
    refine exists_congr fun x => ?_
    rw [h.mem_held_iff]
    refine and_congr_right fun hx => ?_
    split
    · rename_i heq
      have hmem := hvalid.find?_eq_some_iff.mp hfind
      have hsame : v = x := hvalid.functional hmem (heq ▸ (h.mem_held_iff u x).mpr hx)
      rw [hsame]
    · rfl
  · rw [map_fst_alter]
    exact h.nodup_held

theorem insert (h : l.Describes kind r) (v : α) :
    (∃ r' t, r.insert v = (r', .ok t) ∧ t ≠ 0 ∧ t ∉ l.issued ∧ (l.give t v).Describes kind r') ∨
      r.insert v = (r, .error (.exhausted kind)) ∧ Registry.slotLimit ≤ l.issued.length := by
  rcases Registry.insert_spec h.wellFormed v with ⟨r', t, heq, hinserted⟩ | ⟨heq, _, hsize⟩
  · have hissued := (hinserted.issued_iff t).mpr (Or.inl rfl)
    refine Or.inl ⟨r', t, heq, hissued.ne_zero hinserted.wellFormed, fun hmem => ?_,
      h.give hinserted⟩
    exact hinserted.fresh ((h.mem_issued_iff t).mp hmem)
  · rw [h.kind_eq] at heq
    exact Or.inr ⟨heq, hsize ▸ h.slots_le⟩

theorem inOrder_eq (h : l.Describes kind r) : l.inOrder = r.holdings := by
  have hperm : l.inOrder.Perm r.holdings :=
    (List.mergeSort_perm _ _).trans h.perm_holdings.symm
  have hsorted : l.inOrder.Pairwise fun a b => decide (a.1.place ≤ b.1.place) = true := by
    refine List.pairwise_mergeSort (fun a b c hab hbc => ?_) (fun a b => ?_) _
    · simp only [decide_eq_true_eq] at hab hbc ⊢
      exact Nat.le_trans hab hbc
    · simp only [Bool.or_eq_true, decide_eq_true_eq]
      exact Nat.le_total _ _
  have hslots : r.holdings.Pairwise fun a b => decide (a.1.place ≤ b.1.place) = true :=
    (Registry.pairwise_holdings h.wellFormed).imp fun hlt => decide_eq_true (Nat.le_of_lt hlt)
  refine List.Perm.eq_of_pairwise (fun a b ha hb hab hba => ?_) hsorted hslots hperm
  refine Registry.eq_of_place_eq h.wellFormed (hperm.mem_iff.mp ha) hb ?_
  exact Nat.le_antisymm (of_decide_eq_true hab) (of_decide_eq_true hba)

theorem removeWhere (h : l.Describes kind r) (p : α → Bool) :
    (l.strike fun _ v => p v).Describes kind (r.removeWhere p).1 ∧
      (r.removeWhere p).2 = (l.inOrder.filter fun entry => p entry.2).map Prod.snd := by
  refine ⟨h.strike (Registry.removed_removeWhere h.wellFormed p), ?_⟩
  rw [h.inOrder_eq]
  exact Registry.removeWhere_eq_filter_holdings r p

/-- Nothing matches a condition that nothing held satisfies. -/
theorem matching_eq_nil (h : l.Describes kind r) {p : α → Bool}
    (hnone : ∀ t v, (t, v) ∈ l.held → p v = false) : r.matching p = [] := by
  refine List.eq_nil_iff_forall_not_mem.mpr fun index hmem => ?_
  obtain ⟨generation, v, hslot, hp⟩ := Registry.mem_matching_iff.mp hmem
  have hholds : r.Holds (Token.make r.kind generation index) v := ⟨index, generation, hslot, rfl⟩
  rw [hnone _ v ((h.mem_held_iff _ v).mpr hholds)] at hp
  exact Bool.false_ne_true hp

end Describes

end Ledger

end OrderedStore
