import Mathlib.Data.List.TakeWhile
import Mathlib.Tactic.Ring
import OrderedStore.Gateway.Serve

/-!
# Texts without NUL

A host receives words as a string that ends at a NUL, so NUL characters are left out of
them.  A text is plain if there is nothing to leave out.  The bytes of a plain text have no
NUL, and a text that is read from bytes without NUL is plain: the forms that `Utf8` refuses
are just those that would spell a NUL in another way.
-/

set_option autoImplicit false

namespace OrderedStore

/-- There is no NUL in the text. -/
def Plain (text : String) : Prop := '\x00' ∉ text.toList

instance (text : String) : Decidable (Plain text) := inferInstanceAs (Decidable (¬ _))

theorem withoutNul_of_plain {text : String} (h : Plain text) : withoutNul text = text := by
  have hkept : text.toList.filter (· ≠ '\x00') = text.toList := by
    refine List.filter_eq_self.mpr fun c hc => decide_eq_true ?_
    rintro rfl
    exact h hc
  rw [withoutNul, hkept, String.ofList_toList]

theorem Plain.append {s t : String} (hs : Plain s) (ht : Plain t) : Plain (s ++ t) := by
  unfold Plain
  rw [String.toList_append, List.mem_append, not_or]
  exact ⟨hs, ht⟩

theorem Plain.of_append {s t : String} (h : Plain (s ++ t)) : Plain s ∧ Plain t := by
  unfold Plain at h
  rw [String.toList_append, List.mem_append, not_or] at h
  exact h

theorem plain_natRepr (n : Nat) : Plain (toString n) := by
  intro hmem
  have hdigits : (toString n).toList = Nat.toDigits 10 n := by
    show (Nat.repr n).toList = _
    rw [Nat.repr, String.toList_ofList]
  rw [hdigits] at hmem
  have hdigit := Nat.isDigit_of_mem_toDigits (by decide) (by decide) hmem
  simp [Char.isDigit] at hdigit

namespace Utf8

/-! ## Writing -/

theorem ofNat_ne_zero {n : Nat} (hpos : 0 < n) (hn : n < 256) : 0 ≠ UInt8.ofNat n := by
  intro h
  have hzero : (UInt8.ofNat n).toNat = 0 := h ▸ rfl
  rw [UInt8.toNat_ofNat_of_lt' hn] at hzero
  exact absurd hzero (Nat.ne_of_gt hpos)

/-- Only NUL is written with a zero byte: all bytes of characters beyond ASCII are marked. -/
theorem zero_not_mem_utf8EncodeChar {c : Char} (h : c ≠ '\x00') :
    0 ∉ String.utf8EncodeChar c := by
  have hpos : 0 < c.val.toNat := by
    refine Nat.pos_of_ne_zero fun hzero => h ?_
    exact Char.ext (UInt32.toNat_inj.mp hzero)
  have hmarked : ∀ n, 128 ≤ n → n < 256 → 0 ≠ UInt8.ofNat n :=
    fun n hmark => ofNat_ne_zero (Nat.lt_of_lt_of_le (by decide) hmark)
  unfold String.utf8EncodeChar
  simp only
  split
  · rw [List.mem_singleton]
    exact ofNat_ne_zero hpos (by omega)
  · split
    · simp only [List.mem_cons, List.not_mem_nil, or_false, not_or]
      exact ⟨hmarked _ (by omega) (by omega), hmarked _ (by omega) (by omega)⟩
    · split
      · simp only [List.mem_cons, List.not_mem_nil, or_false, not_or]
        exact ⟨hmarked _ (by omega) (by omega), hmarked _ (by omega) (by omega),
          hmarked _ (by omega) (by omega)⟩
      · simp only [List.mem_cons, List.not_mem_nil, or_false, not_or]
        exact ⟨hmarked _ (by omega) (by omega), hmarked _ (by omega) (by omega),
          hmarked _ (by omega) (by omega), hmarked _ (by omega) (by omega)⟩

/-! ## Reading -/

/-- The number of a character other than NUL. -/
def Proper (code : Nat) : Prop := 0 < code ∧ code.isValidChar

theorem ofNat_ne_nul {code : Nat} (h : Proper code) : Char.ofNat code ≠ '\x00' := by
  intro heq
  have htoNat : (Char.ofNat code).toNat = code := by
    rw [Char.ofNat, dif_pos h.2]
    rfl
  rw [heq] at htoNat
  exact absurd htoNat (Nat.ne_of_lt h.1)

/-- Each byte that follows adds six bits to the number. -/
theorem eq_ofNat_of_follow {n code : Nat} {bytes : Bytes} {c : Char}
    (h : (follow n 0x80 0xBF code bytes).1 = some c) :
    ∃ x < 64 ^ n, c = Char.ofNat (code * 64 ^ n + x) := by
  induction n generalizing code bytes with
  | zero => exact ⟨0, by simp, by simpa [follow] using h.symm⟩
  | succ n ih =>
    cases bytes with
    | nil => simp [follow] at h
    | cons b rest =>
      simp only [follow] at h
      split at h
      · obtain ⟨x, hx, rfl⟩ := ih h
        have hb : b.toNat % 64 ≤ 63 := by omega
        refine ⟨b.toNat % 64 * 64 ^ n + x, ?_, congrArg Char.ofNat (by ring)⟩
        calc b.toNat % 64 * 64 ^ n + x < b.toNat % 64 * 64 ^ n + 64 ^ n := by omega
          _ = (b.toNat % 64 + 1) * 64 ^ n := by ring
          _ ≤ 64 * 64 ^ n := Nat.mul_le_mul_right _ (by omega)
          _ = 64 ^ (n + 1) := by ring
      · simp at h

/-- The first byte after a lead byte is in a range that leaves out the overlong forms, the
surrogates and what is beyond the last character. -/
theorem proper_of_lead? {b : UInt8} {lead : Lead} (h : lead? b = some lead) :
    ∃ n, lead.following = n + 1 ∧ ∀ first, lead.low ≤ first → first ≤ lead.high →
      ∀ x < 64 ^ n, Proper ((lead.bits * 64 + first.toNat % 64) * 64 ^ n + x) := by
  refine ⟨lead.following - 1, ?_⟩
  unfold lead? at h
  simp only [UInt8.le_iff_toNat_le, ← UInt8.toNat_inj] at h
  repeat' split at h
  -- What is left at the end is not a lead byte; the others differ in their numbers only.
  pick_goal -1
  · simp at h
  all_goals
    obtain rfl := Option.some.inj h
    refine ⟨rfl, fun first hlow hhigh x hx => ?_⟩
    simp only [Proper, Nat.isValidChar, UInt8.le_iff_toNat_le, UInt8.reduceToNat,
      Nat.reducePow, Nat.reduceSub] at *
    omega

/-- No character of a byte string without NUL bytes is NUL. -/
theorem ne_nul_of_next {b : UInt8} {rest : Bytes} {c : Char} (hb : b ≠ 0)
    (h : (next b rest).1 = some c) : c ≠ '\x00' := by
  unfold next at h
  split at h
  · rename_i hascii
    obtain rfl := Option.some.inj h
    refine ofNat_ne_nul ⟨Nat.pos_of_ne_zero fun hzero => hb (UInt8.toNat_inj.mp hzero), Or.inl ?_⟩
    have hlt : b.toNat < 128 := UInt8.lt_iff_toNat_lt.mp hascii
    omega
  · split at h
    · simp at h
    · rename_i lead hlead
      obtain ⟨n, hfollowing, hproper⟩ := proper_of_lead? hlead
      rw [hfollowing] at h
      cases rest with
      | nil => simp [follow] at h
      | cons first rest =>
        simp only [follow] at h
        split at h
        · rename_i hrange
          obtain ⟨x, hx, rfl⟩ := eq_ofNat_of_follow h
          exact ofNat_ne_nul (hproper first hrange.1 hrange.2 x hx)
        · simp at h

theorem follow_subset (n : Nat) (low high : UInt8) (code : Nat) (bytes : Bytes) :
    (follow n low high code bytes).2 ⊆ bytes := by
  induction n generalizing low high code bytes with
  | zero => simp [follow]
  | succ n ih =>
    cases bytes with
    | nil => simp [follow]
    | cons b rest =>
      simp only [follow]
      split
      · exact List.subset_cons_of_subset b (ih _ _ _ rest)
      · exact List.Subset.refl _

theorem next_subset (b : UInt8) (rest : Bytes) : (next b rest).2 ⊆ rest := by
  unfold next
  split
  · exact List.Subset.refl _
  · split
    · exact List.Subset.refl _
    · exact follow_subset _ _ _ _ rest

theorem ne_nul_of_pieces {bytes : Bytes} (h : 0 ∉ bytes) {c : Char}
    (hc : some c ∈ pieces bytes) : c ≠ '\x00' := by
  induction bytes using pieces.induct with
  | case1 => simp [pieces] at hc
  | case2 b rest ih =>
    rw [List.mem_cons, not_or] at h
    rw [pieces, List.mem_cons] at hc
    rcases hc with hfirst | hlater
    · exact ne_nul_of_next (Ne.symm h.1) hfirst.symm
    · exact ih (fun hmem => h.2 (next_subset b rest hmem)) hlater

theorem eq_map_some_of_mapM {α : Type} {pieces : List (Option α)} {all : List α}
    (h : pieces.mapM id = some all) : pieces = all.map some := by
  induction pieces generalizing all with
  | nil =>
    obtain rfl := Option.some.inj h
    rfl
  | cons piece rest ih =>
    rw [List.mapM_cons] at h
    obtain ⟨a, rfl, hrest⟩ := Option.bind_eq_some_iff.mp h
    obtain ⟨others, hothers, hall⟩ := Option.bind_eq_some_iff.mp hrest
    obtain rfl := Option.some.inj hall
    rw [ih hothers]
    rfl

/-- A text that is spelled without NUL bytes is plain. -/
theorem plain_of_text? {bytes : Bytes} (h : 0 ∉ bytes) {text : String}
    (htext : text? bytes = some text) : Plain text := by
  obtain ⟨chars, hchars, rfl⟩ := Option.map_eq_some_iff.mp htext
  intro hmem
  rw [String.toList_ofList] at hmem
  refine ne_nul_of_pieces h ?_ rfl
  rw [eq_map_some_of_mapM hchars]
  exact List.mem_map_of_mem hmem

end Utf8

/-- The bytes of a plain text have no NUL. -/
theorem Plain.zero_not_mem_utf8 {text : String} (h : Plain text) : 0 ∉ utf8 text := by
  intro hmem
  obtain ⟨c, hc, hzero⟩ := List.mem_flatMap.mp hmem
  refine Utf8.zero_not_mem_utf8EncodeChar ?_ hzero
  rintro rfl
  exact h hc

/-- The text of a path ends before a NUL. -/
theorem Gateway.plain_of_readPath {path : PathArgument} {text : String}
    (h : readPath path = .ok text) : Plain text := by
  unfold readPath at h
  split at h
  · simp at h
  · rename_i bytes
    split at h
    · rename_i text' htext
      obtain rfl := Except.ok.inj h
      refine Utf8.plain_of_text? (fun hzero => ?_) htext
      simpa using List.mem_takeWhile_imp hzero
    · simp at h

end OrderedStore
