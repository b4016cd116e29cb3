import OrderedStore.Batch
import OrderedStore.Proofs.Table

/-!
# Keyspaces as maps

A keyspace is settled by what it has under each key: since the keys ascend strictly, a
key occurs at most once, and two keyspaces with the same values under all keys have the
same entries.  So a law of keyspaces is proved key by key.  The lemmas on `insert` and
`erase` say what a write does to the value of each key, and nothing later opens them.
-/

set_option autoImplicit false

namespace OrderedStore

/-! ## Ascending entries -/

theorem Ascending.nodup_keys {entries : List Entry} (h : Ascending entries) :
    (entries.map Prod.fst).Nodup := by
  refine List.pairwise_map.mpr (h.imp fun hlt heq => ?_)
  rw [heq] at hlt
  exact Bytes.lt_irrefl _ hlt

theorem Ascending.nodup {entries : List Entry} (h : Ascending entries) : entries.Nodup :=
  List.Nodup.of_map _ h.nodup_keys

/-- Entries in ascending order are settled by which of them there are. -/
theorem Ascending.eq_of_perm {a b : List Entry} (ha : Ascending a) (hb : Ascending b)
    (h : a.Perm b) : a = b :=
  h.eq_of_pairwise (fun _ _ _ _ hxy hyx => absurd hyx (Bytes.lt_asymm hxy)) ha hb

namespace Keyspace

variable {m m' : Keyspace} {key value : Bytes}

/-! ## Looking keys up -/

theorem get?_eq_some_iff : m.get? key = some value ↔ (key, value) ∈ m.entries := by
  unfold get?
  constructor
  · intro h
    obtain ⟨⟨found, _⟩, hfind, rfl⟩ := Option.map_eq_some_iff.mp h
    have hkey : found = key := by simpa using List.find?_some hfind
    rw [← hkey]
    exact List.mem_of_find?_eq_some hfind
  · intro hmem
    rw [Table.find?_of_mem m.ascending.nodup_keys hmem]
    rfl

theorem get?_eq_none_iff : m.get? key = none ↔ ∀ e ∈ m.entries, e.1 ≠ key := by
  unfold get?
  rw [Option.map_eq_none_iff, List.find?_eq_none]
  simp only [decide_eq_true_eq, ne_eq]

/-- A keyspace is settled by the values of its keys. -/
theorem ext_get? (h : ∀ key, m.get? key = m'.get? key) : m = m' := by
  refine ext (m.ascending.eq_of_perm m'.ascending ?_)
  refine (List.perm_ext_iff_of_nodup m.ascending.nodup m'.ascending.nodup).mpr fun e => ?_
  rw [← get?_eq_some_iff, h, get?_eq_some_iff]

theorem get?_empty (key : Bytes) : empty.get? key = none := by
  rw [get?_eq_none_iff]
  intro e hmem
  exact absurd hmem List.not_mem_nil

/-! ## Writing -/

/-- A new entry and the entries of all other keys. -/
theorem perm_insertEntry {entries : List Entry} (h : Ascending entries) (key value : Bytes) :
    (insertEntry key value entries).Perm
      ((key, value) :: entries.filter fun e => e.1 ≠ key) := by
  induction entries with
  | nil => exact List.Perm.refl _
  | cons d rest ih =>
    have hd := List.pairwise_cons.mp h
    have hkept : ∀ {k : Bytes}, ¬ d.1 < k → (rest.filter fun e => e.1 ≠ k) = rest := by
      intro k hk
      refine List.filter_eq_self.mpr fun e hmem => ?_
      have hne : e.1 ≠ k := by
        rintro rfl
        exact hk (hd.1 e hmem)
      simpa using hne
    unfold insertEntry
    split
    · rename_i hlt
      have hne : d.1 ≠ key := by
        rintro rfl
        exact Bytes.lt_irrefl _ hlt
      rw [List.filter_cons_of_pos (by simpa using hne)]
      exact ((ih hd.2).cons d).trans (List.Perm.swap _ _ _)
    · rename_i hnlt
      split
      · rename_i hgt
        have hne : d.1 ≠ key := by
          rintro heq
          rw [heq] at hgt
          exact Bytes.lt_irrefl _ hgt
        rw [List.filter_cons_of_pos (by simpa using hne), hkept hnlt]
      · rename_i hngt
        have heq : d.1 = key := Bytes.eq_of_not_lt hnlt hngt
        rw [List.filter_cons_of_neg (by simpa using heq), hkept hnlt]

theorem get?_insert (m : Keyspace) (key value other : Bytes) :
    (m.insert key value).get? other = if other = key then some value else m.get? other := by
  have hmem : ∀ e, e ∈ (m.insert key value).entries ↔
      e = (key, value) ∨ e ∈ m.entries ∧ e.1 ≠ key := by
    intro e
    show e ∈ insertEntry key value m.entries ↔ _
    rw [(perm_insertEntry m.ascending key value).mem_iff, List.mem_cons, List.mem_filter]
    simp only [ne_eq, decide_not, Bool.not_eq_eq_eq_not, Bool.not_true, decide_eq_false_iff_not]
  split
  · rename_i heq
    rw [get?_eq_some_iff, hmem, heq]
    exact Or.inl rfl
  · rename_i hne
    refine Option.ext fun v => ?_
    rw [get?_eq_some_iff, get?_eq_some_iff, hmem]
    constructor
    · rintro (heq | ⟨hold, _⟩)
      · exact absurd (Prod.mk.inj heq).1 hne
      · exact hold
    · exact fun hold => Or.inr ⟨hold, hne⟩

theorem get?_erase (m : Keyspace) (key other : Bytes) :
    (m.erase key).get? other = if other = key then none else m.get? other := by
  have hmem : ∀ e, e ∈ (m.erase key).entries ↔ e ∈ m.entries ∧ e.1 ≠ key := by
    intro e
    show e ∈ m.entries.filter _ ↔ _
    rw [List.mem_filter]
    simp only [ne_eq, decide_not, Bool.not_eq_eq_eq_not, Bool.not_true, decide_eq_false_iff_not]
  split
  · rename_i heq
    rw [get?_eq_none_iff]
    intro e he
    rw [heq]
    exact ((hmem e).mp he).2
  · rename_i hne
    refine Option.ext fun v => ?_
    rw [get?_eq_some_iff, get?_eq_some_iff, hmem]
    exact ⟨And.left, fun hold => ⟨hold, hne⟩⟩

end Keyspace

end OrderedStore
