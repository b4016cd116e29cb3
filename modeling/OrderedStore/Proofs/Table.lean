import Mathlib.Data.List.Nodup
import OrderedStore.Table

/-!
# What operations do to a table

Each operation is described by what it does to the look-up of every identity.  In a
well-formed table no identity occurs twice and all of them have been handed out, so
the identity that comes next is new, and the rows that satisfy a condition can be
counted through every change.
-/

set_option autoImplicit false

namespace OrderedStore.Table

variable {s : Species} {α : Type}

/-! ## Looking rows up -/

@[simp] theorem get?_empty (id : Identity s) : (empty : Table s α).get? id = none := rfl

theorem get?_insert (t : Table s α) (row : α) (id : Identity s) :
    (t.insert row).get? id = if id = t.fresh then some row else t.get? id := by
  unfold get? insert
  by_cases h : id = t.fresh
  · simp [h]
  · simp [h, Ne.symm h]

@[simp] theorem get?_insert_fresh (t : Table s α) (row : α) :
    (t.insert row).get? t.fresh = some row := by
  rw [get?_insert, if_pos rfl]

theorem get?_insert_of_ne (t : Table s α) (row : α) {id : Identity s} (h : id ≠ t.fresh) :
    (t.insert row).get? id = t.get? id := by
  rw [get?_insert, if_neg h]

theorem get?_modify (t : Table s α) (id id' : Identity s) (f : α → α) :
    (t.modify id f).get? id' = if id' = id then (t.get? id').map f else t.get? id' := by
  obtain ⟨next, rows⟩ := t
  simp only [get?, modify]
  induction rows with
  | nil => simp
  | cons row rest ih =>
    by_cases hrow : row.1 = id'
    · subst hrow
      by_cases hid : row.1 = id
      · simp [hid]
      · simp [hid]
    · have hkey : (if row.1 = id then (row.1, f row.2) else row).1 ≠ id' := by
        split <;> exact hrow
      rw [List.map_cons, List.find?_cons_of_neg (by simpa using hkey),
        List.find?_cons_of_neg (by simpa using hrow)]
      exact ih

/-- Where there is no row there is nothing to change. -/
theorem modify_eq_self {t : Table s α} {id : Identity s} (f : α → α) (h : t.get? id = none) :
    t.modify id f = t := by
  obtain ⟨next, rows⟩ := t
  simp only [get?, Option.map_eq_none_iff, List.find?_eq_none, decide_eq_true_eq] at h
  simp only [modify, mk.injEq, true_and]
  have hsame : (rows.map fun row => if row.1 = id then (row.1, f row.2) else row) =
      rows.map fun row => row :=
    List.map_congr_left fun row hmem => if_neg (h row hmem)
  rw [hsame, List.map_id']

theorem modify_modify (t : Table s α) (id : Identity s) (f g : α → α) :
    (t.modify id f).modify id g = t.modify id fun row => g (f row) := by
  obtain ⟨next, rows⟩ := t
  simp only [modify, List.map_map, mk.injEq, true_and]
  refine List.map_congr_left fun row _ => ?_
  by_cases h : row.1 = id
  · simp [h]
  · simp [h]

theorem get?_erase (t : Table s α) (id id' : Identity s) :
    (t.erase id).get? id' = if id' = id then none else t.get? id' := by
  obtain ⟨next, rows⟩ := t
  simp only [get?, erase, List.find?_filter]
  by_cases h : id' = id
  · subst h
    simp
  · rw [if_neg h]
    congr 2
    funext row
    by_cases hrow : row.1 = id'
    · simp [hrow, h]
    · simp [hrow]

theorem get?_erase_of_ne (t : Table s α) {id id' : Identity s} (h : id' ≠ id) :
    (t.erase id).get? id' = t.get? id' := by
  rw [get?_erase, if_neg h]

/-! ## Well-formed tables -/

/-- No identity occurs twice, and every one has been handed out. -/
structure WellFormed (t : Table s α) : Prop where
  nodup : (t.rows.map Prod.fst).Nodup
  lt_next : ∀ row ∈ t.rows, row.1.number < t.next

theorem mem_of_get? {t : Table s α} {id : Identity s} {row : α} (h : t.get? id = some row) :
    (id, row) ∈ t.rows := by
  unfold get? at h
  obtain ⟨found, hfind, rfl⟩ := Option.map_eq_some_iff.mp h
  have hid := List.find?_some hfind
  simp only [decide_eq_true_eq] at hid
  subst hid
  exact List.mem_of_find?_eq_some hfind

theorem WellFormed.number_lt {t : Table s α} (h : t.WellFormed) {id : Identity s} {row : α}
    (hget : t.get? id = some row) : id.number < t.next :=
  h.lt_next _ (mem_of_get? hget)

theorem WellFormed.ne_fresh {t : Table s α} (h : t.WellFormed) {id : Identity s} {row : α}
    (hget : t.get? id = some row) : id ≠ t.fresh := by
  intro heq
  have hlt := h.number_lt hget
  rw [heq] at hlt
  exact absurd hlt (Nat.lt_irrefl _)

theorem WellFormed.get?_fresh {t : Table s α} (h : t.WellFormed) : t.get? t.fresh = none := by
  cases hget : t.get? t.fresh with
  | none => rfl
  | some row => exact absurd rfl (h.ne_fresh hget)

theorem find?_of_mem {κ : Type} [DecidableEq κ] {rows : List (κ × α)}
    (hnodup : (rows.map Prod.fst).Nodup) {id : κ} {row : α} (hmem : (id, row) ∈ rows) :
    (rows.find? fun entry => entry.1 = id) = some (id, row) := by
  induction rows with
  | nil => exact absurd hmem List.not_mem_nil
  | cons first rest ih =>
    obtain ⟨hnotmem, hnodup⟩ := List.nodup_cons.mp hnodup
    rcases List.mem_cons.mp hmem with rfl | hmem
    · exact List.find?_cons_of_pos (by simp)
    · have hne : first.1 ≠ id := by
        rintro rfl
        exact hnotmem (List.mem_map.mpr ⟨_, hmem, rfl⟩)
      rw [List.find?_cons_of_neg (by simpa using hne)]
      exact ih hnodup hmem

theorem WellFormed.get?_eq_some_iff {t : Table s α} (h : t.WellFormed) {id : Identity s}
    {row : α} : t.get? id = some row ↔ (id, row) ∈ t.rows := by
  refine ⟨mem_of_get?, fun hmem => ?_⟩
  rw [get?, find?_of_mem h.nodup hmem]
  rfl

/-- A change that leaves the row as it is changes nothing. -/
theorem WellFormed.modify_eq_self {t : Table s α} (h : t.WellFormed) {id : Identity s} {row : α}
    (hget : t.get? id = some row) {f : α → α} (hf : f row = row) : t.modify id f = t := by
  obtain ⟨next, rows⟩ := t
  simp only [modify, mk.injEq, true_and]
  have hsame : (rows.map fun entry => if entry.1 = id then (entry.1, f entry.2) else entry) =
      rows.map fun entry => entry := by
    refine List.map_congr_left fun entry hmem => ?_
    split
    · rename_i hid
      have hrow : entry.2 = row := Option.some.inj
        ((h.get?_eq_some_iff.mpr hmem).symm.trans (hid ▸ hget))
      rw [hrow, hf, ← hrow]
    · rfl
  rw [hsame, List.map_id']

theorem wellFormed_empty : (empty : Table s α).WellFormed where
  nodup := List.nodup_nil
  lt_next := by simp [empty]

theorem WellFormed.insert {t : Table s α} (h : t.WellFormed) (row : α) :
    (t.insert row).WellFormed where
  nodup := by
    refine List.nodup_cons.mpr ⟨fun hmem => ?_, h.nodup⟩
    obtain ⟨other, hother, heq⟩ := List.mem_map.mp hmem
    have hlt := h.lt_next other hother
    rw [heq] at hlt
    exact absurd hlt (Nat.lt_irrefl _)
  lt_next := by
    intro other hmem
    rcases List.mem_cons.mp hmem with rfl | hmem
    · exact Nat.lt_succ_self _
    · exact Nat.lt_succ_of_lt (h.lt_next other hmem)

theorem WellFormed.skip {t : Table s α} (h : t.WellFormed) : t.skip.WellFormed where
  nodup := h.nodup
  lt_next other hmem := Nat.lt_succ_of_lt (h.lt_next other hmem)

theorem map_fst_modify (t : Table s α) (id : Identity s) (f : α → α) :
    (t.modify id f).rows.map Prod.fst = t.rows.map Prod.fst := by
  simp only [modify, List.map_map]
  refine List.map_congr_left fun row _ => ?_
  simp only [Function.comp_apply]
  split <;> rfl

theorem WellFormed.modify {t : Table s α} (h : t.WellFormed) (id : Identity s) (f : α → α) :
    (t.modify id f).WellFormed where
  nodup := by
    rw [map_fst_modify]
    exact h.nodup
  lt_next := by
    intro row hmem
    have hkey : row.1 ∈ (t.modify id f).rows.map Prod.fst := List.mem_map_of_mem hmem
    rw [map_fst_modify] at hkey
    obtain ⟨other, hother, heq⟩ := List.mem_map.mp hkey
    rw [← heq]
    exact h.lt_next other hother

theorem WellFormed.erase {t : Table s α} (h : t.WellFormed) (id : Identity s) :
    (t.erase id).WellFormed where
  nodup := List.Sublist.nodup (List.filter_sublist.map Prod.fst) h.nodup
  lt_next row hmem := h.lt_next row (List.mem_of_mem_filter hmem)

/-! ## Counting rows -/

/-- The number of rows that satisfy a condition. -/
def count (t : Table s α) (p : α → Bool) : Nat := t.rows.countP fun row => p row.2

theorem count_eq_zero {t : Table s α} (h : t.WellFormed) {p : α → Bool}
    (hnone : ∀ id row, t.get? id = some row → p row = false) : t.count p = 0 := by
  refine List.countP_eq_zero.mpr fun row hmem => ?_
  rw [hnone row.1 row.2 (h.get?_eq_some_iff.mpr hmem)]
  exact Bool.false_ne_true

/-- The rows that are counted have a list of their identities. -/
theorem count_eq_length {t : Table s α} (h : t.WellFormed) {p : α → Bool}
    {ids : List (Identity s)} (hnodup : ids.Nodup)
    (hmem : ∀ id, id ∈ ids ↔ ∃ row, t.get? id = some row ∧ p row = true) :
    t.count p = ids.length := by
  have hcounted : t.count p = ((t.rows.filter fun row => p row.2).map Prod.fst).length := by
    rw [List.length_map, ← List.countP_eq_length_filter]
    rfl
  have hnodup' : ((t.rows.filter fun row => p row.2).map Prod.fst).Nodup :=
    List.Sublist.nodup (List.filter_sublist.map Prod.fst) h.nodup
  rw [hcounted]
  refine ((List.perm_ext_iff_of_nodup hnodup' hnodup).mpr fun id => ?_).length_eq
  rw [hmem, List.mem_map]
  constructor
  · rintro ⟨⟨id, row⟩, hrow, rfl⟩
    obtain ⟨hrow, hp⟩ := List.mem_filter.mp hrow
    exact ⟨row, h.get?_eq_some_iff.mpr hrow, hp⟩
  · rintro ⟨row, hget, hp⟩
    exact ⟨(id, row), List.mem_filter.mpr ⟨h.get?_eq_some_iff.mp hget, hp⟩, rfl⟩

theorem count_insert (t : Table s α) (row : α) (p : α → Bool) :
    (t.insert row).count p = t.count p + if p row then 1 else 0 := by
  simp only [count, insert, List.countP_cons]

/-- A change that no row shows to the condition does not change the count. -/
theorem count_modify (t : Table s α) (id : Identity s) (f : α → α) (p : α → Bool)
    (h : ∀ row, p (f row) = p row) : (t.modify id f).count p = t.count p := by
  simp only [count, modify, List.countP_map]
  refine List.countP_congr fun row _ => ?_
  simp only [Function.comp_apply]
  split <;> simp [h]

theorem countP_filter_ne {rows : List (Identity s × α)} (hnodup : (rows.map Prod.fst).Nodup)
    {id : Identity s} {row : α} (hmem : (id, row) ∈ rows) (p : α → Bool) :
    ((rows.filter fun entry => entry.1 ≠ id).countP fun entry => p entry.2) +
      (if p row then 1 else 0) = rows.countP fun entry => p entry.2 := by
  induction rows with
  | nil => exact absurd hmem List.not_mem_nil
  | cons first rest ih =>
    obtain ⟨hnotmem, hnodup⟩ := List.nodup_cons.mp hnodup
    rcases List.mem_cons.mp hmem with rfl | hmem
    · have hkept : (rest.filter fun entry => entry.1 ≠ id) = rest := by
        refine List.filter_eq_self.mpr fun entry hentry => ?_
        have hne : entry.1 ≠ id := fun heq => hnotmem (List.mem_map.mpr ⟨entry, hentry, heq⟩)
        simpa using hne
      rw [List.filter_cons_of_neg (by simp), hkept, List.countP_cons]
    · have hne : first.1 ≠ id := by
        rintro rfl
        exact hnotmem (List.mem_map.mpr ⟨_, hmem, rfl⟩)
      rw [List.filter_cons_of_pos (by simpa using hne), List.countP_cons, List.countP_cons,
        ← ih hnodup hmem]
      omega

theorem count_erase {t : Table s α} (h : t.WellFormed) {id : Identity s} {row : α}
    (hget : t.get? id = some row) (p : α → Bool) :
    (t.erase id).count p + (if p row then 1 else 0) = t.count p :=
  countP_filter_ne h.nodup (mem_of_get? hget) p

end OrderedStore.Table
