import OrderedStore.Proofs.Handle.Lookup

/-!
# How long tokens last

A ledger that goes on only adds things under new tokens and strikes others off.  So a token
that has been handed out and stands for nothing never stands for anything again, and what is
under a token that stands for something was put there when the token was handed out.

`Ledger.Lasts` is what all runs have in common, and `Ledger.Grows` is one step of a run, which
names what has been added.
-/

set_option autoImplicit false

namespace OrderedStore

namespace Ledger

variable {α : Type} {l l' l'' : Ledger α}

/-- Tokens stay handed out, and none that had been handed out has got another thing. -/
structure Lasts (l l' : Ledger α) : Prop where
  issued : ∀ {t : Token}, t ∈ l.issued → t ∈ l'.issued
  held : ∀ {t : Token} {v : α}, (t, v) ∈ l'.held → t ∈ l.issued → (t, v) ∈ l.held

theorem Lasts.refl (l : Ledger α) : l.Lasts l := ⟨id, fun hmem _ => hmem⟩

theorem Lasts.trans (h : l.Lasts l') (h' : l'.Lasts l'') : l.Lasts l'' where
  issued hmem := h'.issued (h.issued hmem)
  held hmem hissued := h.held (h'.held hmem (h.issued hissued)) hissued

/-- The ledger after a step that has added what `new` says, under tokens that had not been
handed out. -/
structure Grows (l l' : Ledger α) (new : Token → α → Prop) : Prop where
  issued_iff : ∀ t, t ∈ l'.issued ↔ t ∈ l.issued ∨ ∃ v, new t v
  held : ∀ {t : Token} {v : α}, (t, v) ∈ l'.held → (t, v) ∈ l.held ∨ new t v
  fresh : ∀ {t : Token} {v : α}, new t v → t ∉ l.issued

theorem Grows.lasts {new : Token → α → Prop} (h : l.Grows l' new) : l.Lasts l' where
  issued hmem := (h.issued_iff _).mpr (Or.inl hmem)
  held hmem hissued := (h.held hmem).resolve_right fun hnew => h.fresh hnew hissued

theorem Grows.congr {new new' : Token → α → Prop} (h : l.Grows l' new)
    (hiff : ∀ t v, new' t v ↔ new t v) : l.Grows l' new' where
  issued_iff t := (h.issued_iff t).trans (or_congr_right (exists_congr fun v => (hiff t v).symm))
  held hmem := (h.held hmem).imp_right (hiff _ _).mpr
  fresh hnew := h.fresh ((hiff _ _).mp hnew)

theorem grows_refl (l : Ledger α) {new : Token → α → Prop} (hnone : ∀ t v, ¬ new t v) :
    l.Grows l new where
  issued_iff t := ⟨Or.inl, fun h => h.resolve_right fun ⟨v, hnew⟩ => hnone t v hnew⟩
  held := Or.inl
  fresh hnew := absurd hnew (hnone _ _)

theorem grows_strike (l : Ledger α) (gone : Token → α → Bool) {new : Token → α → Prop}
    (hnone : ∀ t v, ¬ new t v) : l.Grows (l.strike gone) new where
  issued_iff t := ⟨Or.inl, fun h => h.resolve_right fun ⟨v, hnew⟩ => hnone t v hnew⟩
  held hmem := Or.inl (mem_strike.mp hmem).1
  fresh hnew := absurd hnew (hnone _ _)

theorem grows_give (l : Ledger α) {t : Token} {v : α} (ht : t ∉ l.issued)
    {new : Token → α → Prop} (hgiven : new t v) (hsole : ∀ u w, new u w → u = t) :
    l.Grows (l.give t v) new where
  issued_iff u := by
    rw [give, List.mem_append, List.mem_singleton]
    exact or_congr_right ⟨fun heq => ⟨v, heq ▸ hgiven⟩, fun hnew => hnew.elim (hsole u)⟩
  held {u w} hmem := (mem_give.mp hmem).imp_right fun (heq : u = t ∧ w = v) =>
    heq.1 ▸ heq.2 ▸ hgiven
  fresh hnew := hsole _ _ hnew ▸ ht

theorem lasts_strike (l : Ledger α) (gone : Token → α → Bool) : l.Lasts (l.strike gone) :=
  (grows_strike l gone fun _ _ => not_false).lasts

theorem lasts_give (l : Ledger α) {t : Token} (ht : t ∉ l.issued) (v : α) : l.Lasts (l.give t v) :=
  have hgrows : l.Grows (l.give t v) fun u _ => u = t := grows_give l ht rfl fun _ _ heq => heq
  hgrows.lasts

/-! ## Tokens that have been taken back -/

/-- The token was handed out and stands for nothing any more. -/
structure Spent (l : Ledger α) (t : Token) : Prop where
  issued : t ∈ l.issued
  vacant : ∀ v, (t, v) ∉ l.held

theorem Spent.lasts {t : Token} (h : l.Spent t) (hlasts : l.Lasts l') : l'.Spent t where
  issued := hlasts.issued h.issued
  vacant v hmem := h.vacant v (hlasts.held hmem h.issued)

theorem Valid.spent_strike (h : l.Valid) {gone : Token → α → Bool} {t : Token} {v : α}
    (hmem : (t, v) ∈ l.held) (hgone : gone t v = true) : (l.strike gone).Spent t where
  issued := h.issued hmem
  vacant w hkept := by
    obtain ⟨hheld, hstays⟩ := mem_strike.mp hkept
    rw [h.functional hheld hmem, hgone] at hstays
    exact Bool.false_ne_true hstays.symm

namespace Describes

variable {kind : HandleKind} {r : Registry α} {t : Token}

theorem tag_eq (h : l.Describes kind r) (ht : t ∈ l.issued) : t.tag = kind.tag := by
  rw [← h.kind_eq]
  exact ((h.mem_issued_iff t).mp ht).tag_eq h.wellFormed

theorem ne_zero_of_spent (h : l.Describes kind r) (ht : l.Spent t) : t ≠ 0 :=
  fun heq => h.valid.zero (heq ▸ ht.issued)

theorem get_of_spent (h : l.Describes kind r) (ht : l.Spent t) :
    r.get t = .error (.stale kind) := by
  rw [h.get_eq, h.valid.find?_eq_none_iff.mpr ht.vacant]
  simp only [Registry.faultOf, if_neg (h.ne_zero_of_spent ht), h.tag_eq ht.issued, ne_eq,
    not_true_eq_false, if_false]

/-- A token with the tag of one kind stands for nothing of another kind. -/
theorem get_ne_ok_of_tag_ne (h : l.Describes kind r) (ht : t.tag ≠ kind.tag) (v : α) :
    r.get t ≠ .ok v := by
  intro hget
  have hheld := h.governs.get_iff.mp hget
  exact ht (h.tag_eq (h.valid.issued hheld))

end Describes

end Ledger

end OrderedStore
