import OrderedStore.Proofs.Gateway.Desk
import OrderedStore.Proofs.Store.Effect

/-!
# Orderly desks

A desk is orderly if what its tokens stand for is there: every database token has an open
session to itself, and the entries for iterators and snapshots are one to one with the
iterators and snapshots of the store, each under the token of the session that
it belongs to.  No session is ever closed while something belongs to it.

Carrying out an order keeps a desk orderly, whether the store succeeds or fails and
whether there is a token for what has been built or not.
-/

set_option autoImplicit false

namespace OrderedStore

theorem Ledger.mem_madeThrough {α : Type} {l : Ledger (Child α)} {owner : Token} {thing : α} :
    thing ∈ l.madeThrough owner ↔ ∃ t, (t, ⟨owner, thing⟩) ∈ l.held := by
  have hmem : ∀ entry, entry ∈ l.inOrder ↔ entry ∈ l.held := fun _ =>
    (List.mergeSort_perm l.held _).mem_iff
  rw [madeThrough, List.mem_map]
  constructor
  · rintro ⟨⟨t, child⟩, hentry, rfl⟩
    obtain ⟨hheld, howner⟩ := List.mem_filter.mp hentry
    have hsame : child.owner = owner := of_decide_eq_true howner
    exact ⟨t, hsame ▸ (hmem _).mp hheld⟩
  · rintro ⟨t, hheld⟩
    exact ⟨(t, ⟨owner, thing⟩), List.mem_filter.mpr ⟨(hmem _).mpr hheld, decide_eq_true rfl⟩, rfl⟩

namespace Desk

/-- The entries of a ledger are one to one with the children of a store, and each child is
under the token of the session that it belongs to. -/
structure Minds {α : Type} (child : α → Borrower) (l : Ledger (Child α))
    (databases : Ledger SessionId) (r : Roster) : Prop where
  valid : l.Valid
  owned : ∀ {t : Token} {entry : Child α}, (t, entry) ∈ l.held →
    ∃ id, (entry.owner, id) ∈ databases.held ∧ r.owner? (child entry.thing) = some id
  sole : ∀ {t u : Token} {a b : Child α}, (t, a) ∈ l.held → (u, b) ∈ l.held →
    a.thing = b.thing → t = u
  registered : ∀ {thing : α} {id : SessionId}, r.owner? (child thing) = some id →
    ∃ t owner, (t, ⟨owner, thing⟩) ∈ l.held

/-- Everything that a desk's tokens stand for is there. -/
structure Orderly (d : Desk) : Prop where
  steady : d.store.Steady
  databases : d.databases.Valid
  isOpen : ∀ {t : Token} {id : SessionId}, (t, id) ∈ d.databases.held →
    d.store.isOpen id = true
  sole : ∀ {t u : Token} {id : SessionId}, (t, id) ∈ d.databases.held →
    (u, id) ∈ d.databases.held → u = t
  iterators : Minds .iterator d.iterators d.databases d.store.roster
  snapshots : Minds .snapshot d.snapshots d.databases d.store.roster
  batches : d.batches.Valid

/-- What an order names is there. -/
inductive Finds (d : Desk) : Order → Prop where
  | act {owner : Token} {action : Store.Action} (ready : d.store.Ready action)
    (building : ∀ id, (action = .snapshot id ∨ ∃ through, action = .iterate id through) →
      (owner, id) ∈ d.databases.held) : Finds d (.act owner action)
  | close {t : Token} {id : SessionId} (held : (t, id) ∈ d.databases.held) :
    Finds d (.close t id)
  | freeIterator {t : Token} {child : Child IteratorId} (held : (t, child) ∈ d.iterators.held) :
    Finds d (.freeIterator t child.thing)
  | freeSnapshot {t : Token} {child : Child SnapshotId} (held : (t, child) ∈ d.snapshots.held) :
    Finds d (.freeSnapshot t child.thing)
  | isValid {t : Token} {child : Child IteratorId} (held : (t, child) ∈ d.iterators.held) :
    Finds d (.isValid child.thing)
  | read {t : Token} {child : Child IteratorId} (held : (t, child) ∈ d.iterators.held)
    (part : Entry → Bytes) : Finds d (.read child.thing part)
  | status {t : Token} {child : Child IteratorId} (held : (t, child) ∈ d.iterators.held) :
    Finds d (.status child.thing)
  | createBatch : Finds d .createBatch
  | setBatch (t : Token) (batch : Batch) : Finds d (.setBatch t batch)
  | countBatch (batch : Batch) : Finds d (.countBatch batch)
  | freeBatch (t : Token) : Finds d (.freeBatch t)
  | listen (filter : Filter) : Finds d (.listen filter)

/-! ## Entries and children -/

namespace Minds

variable {α : Type} {child : α → Borrower} {l : Ledger (Child α)}
  {databases databases' : Ledger SessionId} {r r' : Roster}

theorem empty (howner : ∀ b, r.owner? b = none) : Minds child .empty databases r where
  valid := Ledger.valid_empty
  owned h := absurd h List.not_mem_nil
  sole h := absurd h List.not_mem_nil
  registered h := by
    rw [howner] at h
    simp at h

theorem congr (h : Minds child l databases r)
    (howner : ∀ thing, r'.owner? (child thing) = r.owner? (child thing))
    (hdatabases : ∀ entry ∈ databases.held, entry ∈ databases'.held) :
    Minds child l databases' r' where
  valid := h.valid
  owned hmem := by
    obtain ⟨id, hheld, hid⟩ := h.owned hmem
    exact ⟨id, hdatabases _ hheld, (howner _).trans hid⟩
  sole := h.sole
  registered hid := h.registered ((howner _).symm.trans hid)

theorem give (h : Minds child l databases r) (hinj : Function.Injective child) {t owner : Token}
    {thing : α} {id : SessionId} (hzero : t ≠ 0) (hnew : t ∉ l.issued)
    (hheld : (owner, id) ∈ databases.held) (hnone : r.owner? (child thing) = none)
    (howner : ∀ b, r'.owner? b = if b = child thing then some id else r.owner? b) :
    Minds child (l.give t ⟨owner, thing⟩) databases r' where
  valid := h.valid.give hzero hnew _
  owned {u entry} hmem := by
    rcases Ledger.mem_give.mp hmem with hold | ⟨_, rfl⟩
    · obtain ⟨id', hid, howned⟩ := h.owned hold
      refine ⟨id', hid, ?_⟩
      rw [howner, if_neg, howned]
      intro heq
      rw [heq, hnone] at howned
      simp at howned
    · exact ⟨id, hheld, by rw [howner, if_pos rfl]⟩
  sole {t' u' a b} ha hb heq := by
    have hnot : ∀ {u : Token} {entry : Child α}, (u, entry) ∈ l.held → entry.thing ≠ thing := by
      intro u entry hmem hsame
      obtain ⟨id', _, howned⟩ := h.owned hmem
      rw [hsame, hnone] at howned
      simp at howned
    rcases Ledger.mem_give.mp ha with hold | ⟨ht, hentry⟩ <;>
      rcases Ledger.mem_give.mp hb with hold' | ⟨hu, hentry'⟩
    · exact h.sole hold hold' heq
    · exact absurd (heq.trans (congrArg Child.thing hentry')) (hnot hold)
    · exact absurd (heq.symm.trans (congrArg Child.thing hentry)) (hnot hold')
    · exact ht.trans hu.symm
  registered {x id'} hid := by
    rw [howner] at hid
    split at hid
    · rename_i hsame
      exact ⟨t, owner, Ledger.mem_give.mpr (Or.inr ⟨rfl, by rw [hinj hsame]⟩)⟩
    · obtain ⟨u, owner', hmem⟩ := h.registered hid
      exact ⟨u, owner', Ledger.mem_give.mpr (Or.inl hmem)⟩

/-- Children that are gone are struck off, and what is left keeps its owner. -/
theorem strike (h : Minds child l databases r) {gone : Token → Child α → Bool}
    (hgone : ∀ {t : Token} {entry : Child α}, (t, entry) ∈ l.held → gone t entry = true →
      r'.owner? (child entry.thing) = none)
    (hkept : ∀ {t : Token} {entry : Child α}, (t, entry) ∈ l.held → gone t entry = false →
      r'.owner? (child entry.thing) = r.owner? (child entry.thing) ∧
        ∀ id, (entry.owner, id) ∈ databases.held → (entry.owner, id) ∈ databases'.held)
    (hless : ∀ {thing : α} {id : SessionId}, r'.owner? (child thing) = some id →
      r.owner? (child thing) = some id) : Minds child (l.strike gone) databases' r' where
  valid := h.valid.strike gone
  owned hmem := by
    obtain ⟨hold, hstays⟩ := Ledger.mem_strike.mp hmem
    obtain ⟨id, hheld, hid⟩ := h.owned hold
    obtain ⟨howner, hdatabases⟩ := hkept hold hstays
    exact ⟨id, hdatabases id hheld, howner.trans hid⟩
  sole ha hb heq := h.sole (Ledger.mem_strike.mp ha).1 (Ledger.mem_strike.mp hb).1 heq
  registered {x id} hid := by
    obtain ⟨t, owner, hmem⟩ := h.registered (hless hid)
    refine ⟨t, owner, Ledger.mem_strike.mpr ⟨hmem, ?_⟩⟩
    cases hcase : gone t ⟨owner, x⟩ with
    | false => rfl
    | true =>
      rw [hgone hmem hcase] at hid
      simp at hid

/-- One child is let go and its token struck off. -/
theorem free (h : Minds child l databases r) (hinj : Function.Injective child) {t : Token}
    {entry : Child α} (hmem : (t, entry) ∈ l.held)
    (howner : ∀ b, r'.owner? b = if b = child entry.thing then none else r.owner? b) :
    Minds child (l.strike fun u _ => u = t) databases r' := by
  refine h.strike ?_ ?_ ?_
  · intro u other hother hu
    obtain rfl := of_decide_eq_true hu
    rw [h.valid.functional hother hmem, howner, if_pos rfl]
  · intro u other hother hu
    refine ⟨?_, fun _ hid => hid⟩
    rw [howner, if_neg]
    intro heq
    exact of_decide_eq_false hu (h.sole hother hmem (hinj heq))
  · intro thing id hid
    rw [howner] at hid
    split at hid
    · simp at hid
    · exact hid

/-- A child that nothing owns has no token. -/
theorem thing_ne (h : Minds child l databases r) {thing : α} (hnone : r.owner? (child thing) = none)
    {t : Token} {entry : Child α} (hmem : (t, entry) ∈ l.held) : entry.thing ≠ thing := by
  rintro rfl
  obtain ⟨id, _, howner⟩ := h.owned hmem
  rw [hnone] at howner
  simp at howner

/-- A thing is made through one token only. -/
theorem not_madeThrough (h : Minds child l databases r) {t u : Token} {entry : Child α}
    (hmem : (u, entry) ∈ l.held) (hne : entry.owner ≠ t) : entry.thing ∉ l.madeThrough t := by
  intro hmade
  obtain ⟨u', hmem'⟩ := Ledger.mem_madeThrough.mp hmade
  obtain rfl := h.sole hmem hmem' rfl
  exact hne (congrArg Child.owner (h.valid.functional hmem hmem'))

/-- Everything that was made through a token is let go, and the token is struck off. -/
theorem close (h : Minds child l databases r) {t : Token}
    (hgone : ∀ thing ∈ l.madeThrough t, r'.owner? (child thing) = none)
    (hkept : ∀ thing, thing ∉ l.madeThrough t → r'.owner? (child thing) = r.owner? (child thing)) :
    Minds child (l.strike fun _ entry => entry.owner = t) (databases.strike fun u _ => u = t)
      r' := by
  refine h.strike ?_ ?_ ?_
  · intro u entry hmem hentry
    obtain rfl := of_decide_eq_true hentry
    exact hgone _ (Ledger.mem_madeThrough.mpr ⟨u, hmem⟩)
  · intro u entry hmem hentry
    have hne := of_decide_eq_false hentry
    constructor
    · exact hkept _ (h.not_madeThrough hmem hne)
    · intro id hid
      exact Ledger.mem_strike.mpr ⟨hid, decide_eq_false hne⟩
  · intro thing id hid
    by_cases hmade : thing ∈ l.madeThrough t
    · rw [hgone thing hmade] at hid
      simp at hid
    · rw [hkept thing hmade] at hid
      exact hid

end Minds

/-! ## Carrying out orders -/

variable {d : Desk}

theorem orderly_ofStore {s : Store} (h : s.Steady) (howner : ∀ b, s.roster.owner? b = none)
    (directives : Option String) : (ofStore s directives).Orderly where
  steady := h
  databases := Ledger.valid_empty
  isOpen h := absurd h List.not_mem_nil
  sole h := absurd h List.not_mem_nil
  iterators := .empty howner
  snapshots := .empty howner
  batches := Ledger.valid_empty

/-- A store that has changed nothing about sessions and children changes nothing here. -/
theorem Orderly.withStore (h : d.Orderly) {s : Store} (hsteady : s.Steady)
    (hopen : ∀ id, s.isOpen id = d.store.isOpen id)
    (howner : ∀ b, s.roster.owner? b = d.store.roster.owner? b) :
    Orderly { d with store := s } where
  steady := hsteady
  databases := h.databases
  isOpen hmem := (hopen _).trans (h.isOpen hmem)
  sole := h.sole
  iterators := h.iterators.congr (fun _ => howner _) fun _ hmem => hmem
  snapshots := h.snapshots.congr (fun _ => howner _) fun _ hmem => hmem
  batches := h.batches

/-- The kind of thing that an answer hands out. -/
theorem kind?_of_opened {s : Store} {owner : Token} {action : Store.Action} {id : SessionId}
    (h : (s.perform action).2 = .opened (.ok id)) :
    (Order.act owner action).kind? = some .database := by
  cases action <;> first | rfl | simp [Store.perform] at h

theorem kind?_of_snapshot {s : Store} {owner : Token} {action : Store.Action}
    {snapshot : SnapshotId} (h : (s.perform action).2 = .snapshot (.ok snapshot)) :
    (Order.act owner action).kind? = some .snapshot := by
  cases action <;> first | rfl | simp [Store.perform] at h

theorem kind?_of_iterator {s : Store} {owner : Token} {action : Store.Action}
    {iterator : IteratorId} (h : (s.perform action).2 = .iterator (.ok iterator)) :
    (Order.act owner action).kind? = some .iterator := by
  cases action <;> first | rfl | simp [Store.perform] at h

theorem settle_of_not_built (d : Desk) (owner : Token) (given : Option Token)
    {answer : Store.Answer} (h : answer.isBuilt = false) :
    (d.settle owner given answer).1 = d := by
  cases answer with
  | opened outcome => cases outcome <;> first | rfl | simp [Store.Answer.isBuilt] at h
  | done outcome => cases outcome <;> rfl
  | value outcome => cases outcome <;> rfl
  | text text => rfl
  | snapshot outcome => cases outcome <;> first | rfl | simp [Store.Answer.isBuilt] at h
  | iterator outcome => cases outcome <;> first | rfl | simp [Store.Answer.isBuilt] at h

/-- A new session is put under its token, or ended again. -/
theorem Orderly.opened (h : d.Orderly) {s : Store} (hsteady : s.Steady) {id : SessionId}
    (hclosed : d.store.isOpen id = false) (hunowned : ∀ b, d.store.roster.owner? b ≠ some id)
    (hopen : ∀ id', s.isOpen id' = if id' = id then true else d.store.isOpen id')
    (howner : ∀ b, s.roster.owner? b = d.store.roster.owner? b) {given : Option Token}
    (hfresh : ∀ t, given = some t → t ≠ 0 ∧ t ∉ d.databases.issued) (owner : Token) :
    (Desk.settle { d with store := s } owner given (.opened (.ok id))).1.Orderly := by
  have hne : ∀ {t : Token} {id' : SessionId}, (t, id') ∈ d.databases.held → id' ≠ id := by
    intro t id' hmem heq
    rw [← heq, h.isOpen hmem] at hclosed
    simp at hclosed
  cases given with
  | none =>
    have hends := Store.ends_discard hsteady fun b hb => hunowned b ((howner b).symm.trans hb)
    have howner' : ∀ b, (s.discard id).roster.owner? b = d.store.roster.owner? b := fun b =>
      (hends.owner b).trans (howner b)
    refine ⟨hends.steady, h.databases, fun {t id'} hmem => ?_, h.sole, ?_, ?_, h.batches⟩
    · show (s.discard id).isOpen id' = true
      rw [hends.isOpen, if_neg (hne hmem), hopen, if_neg (hne hmem)]
      exact h.isOpen hmem
    · exact h.iterators.congr (fun _ => howner' _) fun _ hmem => hmem
    · exact h.snapshots.congr (fun _ => howner' _) fun _ hmem => hmem
  | some t =>
    obtain ⟨hzero, hnew⟩ := hfresh t rfl
    have hgrown : ∀ entry ∈ d.databases.held, entry ∈ (d.databases.give t id).held := fun _ hmem =>
      List.mem_append_left _ hmem
    refine ⟨hsteady, h.databases.give hzero hnew id, fun {u id'} hmem => ?_, ?_, ?_, ?_, h.batches⟩
    · show s.isOpen id' = true
      rw [hopen]
      split
      · rfl
      · rename_i hother
        exact h.isOpen ((Ledger.mem_give.mp hmem).resolve_right fun hlast => hother hlast.2)
    · intro u u' id' hu hu'
      rcases Ledger.mem_give.mp hu with hold | ⟨ht, hid⟩ <;>
        rcases Ledger.mem_give.mp hu' with hold' | ⟨ht', hid'⟩
      · exact h.sole hold hold'
      · exact absurd hid' (hne hold)
      · exact absurd hid (hne hold')
      · exact ht'.trans ht.symm
    · exact h.iterators.congr (fun _ => howner _) hgrown
    · exact h.snapshots.congr (fun _ => howner _) hgrown

/-- A new snapshot is put under its token, or dropped again. -/
theorem Orderly.tookSnapshot (h : d.Orderly) {s : Store} (hsteady : s.Steady) {id : SessionId}
    {snapshot : SnapshotId} {owner : Token} (hheld : (owner, id) ∈ d.databases.held)
    (hopen : ∀ id', s.isOpen id' = d.store.isOpen id')
    (hnone : d.store.roster.owner? (.snapshot snapshot) = none)
    (howner : ∀ b, s.roster.owner? b =
      if b = .snapshot snapshot then some id else d.store.roster.owner? b) {given : Option Token}
    (hfresh : ∀ t, given = some t → t ≠ 0 ∧ t ∉ d.snapshots.issued) :
    (Desk.settle { d with store := s } owner given (.snapshot (.ok snapshot))).1.Orderly := by
  cases given with
  | none =>
    have hclears := Store.clears_dropSnapshot hsteady snapshot
    refine h.withStore hclears.steady
      (fun id' => (hclears.isOpen id').trans (hopen id')) fun b => ?_
    by_cases hb : b = .snapshot snapshot
    · rw [hclears.none b hb, hb, hnone]
    · rw [hclears.kept b hb, howner, if_neg hb]
  | some t =>
    obtain ⟨hzero, hnew⟩ := hfresh t rfl
    refine ⟨hsteady, h.databases, fun hmem => (hopen _).trans (h.isOpen hmem), h.sole, ?_, ?_,
      h.batches⟩
    · refine h.iterators.congr (fun iterator => ?_) fun _ hmem => hmem
      exact (howner _).trans (if_neg (by simp))
    · exact h.snapshots.give (fun _ _ => Borrower.snapshot.inj) hzero hnew hheld hnone howner

/-- A new iterator is put under its token, or dropped again. -/
theorem Orderly.madeIterator (h : d.Orderly) {s : Store} (hsteady : s.Steady) {id : SessionId}
    {iterator : IteratorId} {owner : Token} (hheld : (owner, id) ∈ d.databases.held)
    (hopen : ∀ id', s.isOpen id' = d.store.isOpen id')
    (hnone : d.store.roster.owner? (.iterator iterator) = none)
    (howner : ∀ b, s.roster.owner? b =
      if b = .iterator iterator then some id else d.store.roster.owner? b) {given : Option Token}
    (hfresh : ∀ t, given = some t → t ≠ 0 ∧ t ∉ d.iterators.issued) :
    (Desk.settle { d with store := s } owner given (.iterator (.ok iterator))).1.Orderly := by
  cases given with
  | none =>
    have hclears := Store.clears_dropIterator hsteady iterator
    refine h.withStore hclears.steady
      (fun id' => (hclears.isOpen id').trans (hopen id')) fun b => ?_
    by_cases hb : b = .iterator iterator
    · rw [hclears.none b hb, hb, hnone]
    · rw [hclears.kept b hb, howner, if_neg hb]
  | some t =>
    obtain ⟨hzero, hnew⟩ := hfresh t rfl
    refine ⟨hsteady, h.databases, fun hmem => (hopen _).trans (h.isOpen hmem), h.sole, ?_, ?_,
      h.batches⟩
    · exact h.iterators.give (fun _ _ => Borrower.iterator.inj) hzero hnew hheld hnone howner
    · refine h.snapshots.congr (fun snapshot => ?_) fun _ hmem => hmem
      exact (howner _).trans (if_neg (by simp))

theorem Orderly.act (h : d.Orderly) {owner : Token} {action : Store.Action}
    {given : Option Token} (hready : d.store.Ready action)
    (hbuilding : ∀ id, (action = .snapshot id ∨ ∃ through, action = .iterate id through) →
      (owner, id) ∈ d.databases.held) (hfresh : d.Fresh (.act owner action) given) :
    (d.carryOut given (.act owner action)).1.Orderly := by
  obtain ⟨hsteady, heffect, _⟩ := hready.effect h.steady
  show (Desk.settle { d with store := (d.store.perform action).1 } owner given
    (d.store.perform action).2).1.Orderly
  have hopened := @kind?_of_opened d.store owner action
  have hsnapshot := @kind?_of_snapshot d.store owner action
  have hiterator := @kind?_of_iterator d.store owner action
  generalize (d.store.perform action).1 = s at hsteady heffect ⊢
  generalize (d.store.perform action).2 = answer at heffect hopened hsnapshot hiterator ⊢
  cases heffect with
  | opened hclosed hunowned hopen howner =>
    exact h.opened hsteady hclosed hunowned hopen howner
      (fun t ht => hfresh .database t (hopened rfl) ht) owner
  | snapshot hopen hnone howner =>
    exact h.tookSnapshot hsteady (hbuilding _ (Or.inl rfl)) hopen hnone howner
      fun t ht => hfresh .snapshot t (hsnapshot rfl) ht
  | iterator hopen hnone howner =>
    exact h.madeIterator hsteady (hbuilding _ (Or.inr ⟨_, rfl⟩)) hopen hnone howner
      fun t ht => hfresh .iterator t (hiterator rfl) ht
  | kept hbuilt hopen howner =>
    rw [settle_of_not_built _ owner given hbuilt]
    exact h.withStore hsteady hopen howner

/-- Emptying a database lets go of everything that was made through its token. -/
theorem Orderly.clears_emptying (h : d.Orderly) (t : Token) :
    d.store.Clears (d.store.run (d.emptying t)) fun b =>
      (∃ iterator ∈ d.iterators.madeThrough t, b = .iterator iterator) ∨
        ∃ snapshot ∈ d.snapshots.madeThrough t, b = .snapshot snapshot := by
  unfold emptying
  rw [Store.run_append, Store.run_append]
  have hreported : d.store.Clears (d.store.run (d.leftOpen t)) fun _ => False := by
    unfold leftOpen
    simp only
    split
    · exact .refl h.steady
    · exact ⟨⟨h.steady.coherent, h.steady.mild, h.steady.quiet.record rfl⟩, fun _ => rfl,
        fun _ hgone => hgone.elim, fun _ _ => rfl⟩
  have hiterators := Store.clears_run .dropIterator
    (fun hsteady iterator => Store.clears_dropIterator hsteady iterator) hreported.steady
    (d.iterators.madeThrough t)
  have hsnapshots := Store.clears_run .dropSnapshot
    (fun hsteady snapshot => Store.clears_dropSnapshot hsteady snapshot) hiterators.steady
    (d.snapshots.madeThrough t)
  exact ((hreported.trans hiterators).trans hsnapshots).congr fun b => by simp

theorem Orderly.close (h : d.Orderly) {t : Token} {id : SessionId}
    (hheld : (t, id) ∈ d.databases.held) (given : Option Token) :
    (d.carryOut given (.close t id)).1.Orderly := by
  have hclears := h.clears_emptying t
  have hnone : ∀ b, (d.store.run (d.emptying t)).roster.owner? b ≠ some id := by
    intro b hb
    have hkept : ¬ ((∃ iterator ∈ d.iterators.madeThrough t, b = .iterator iterator) ∨
        ∃ snapshot ∈ d.snapshots.madeThrough t, b = .snapshot snapshot) := by
      intro hgone
      rw [hclears.none b hgone] at hb
      simp at hb
    rw [hclears.kept b hkept] at hb
    refine hkept ?_
    cases b with
    | iterator iterator =>
      obtain ⟨u, owner, hmem⟩ := h.iterators.registered hb
      obtain ⟨id', hheld', howned⟩ := h.iterators.owned hmem
      obtain rfl := Option.some.inj (howned.symm.trans hb)
      obtain rfl := h.sole hheld hheld'
      exact Or.inl ⟨iterator, Ledger.mem_madeThrough.mpr ⟨u, hmem⟩, rfl⟩
    | snapshot snapshot =>
      obtain ⟨u, owner, hmem⟩ := h.snapshots.registered hb
      obtain ⟨id', hheld', howned⟩ := h.snapshots.owned hmem
      obtain rfl := Option.some.inj (howned.symm.trans hb)
      obtain rfl := h.sole hheld hheld'
      exact Or.inr ⟨snapshot, Ledger.mem_madeThrough.mpr ⟨u, hmem⟩, rfl⟩
  -- By now the session has no children left, so closing it ends nothing else.
  have hends := Store.ends_close hclears.steady hnone
  refine ⟨hends.steady, h.databases.strike fun u _ => u = t, fun {u id'} hmem => ?_, ?_, ?_,
    ?_, h.batches⟩
  · obtain ⟨hold, hne⟩ := Ledger.mem_strike.mp hmem
    show ((d.store.run (d.emptying t)).close id).isOpen id' = true
    rw [hends.isOpen, if_neg, hclears.isOpen]
    · exact h.isOpen hold
    · rintro rfl
      exact of_decide_eq_false hne (h.sole hheld hold)
  · intro u u' id' hu hu'
    exact h.sole (Ledger.mem_strike.mp hu).1 (Ledger.mem_strike.mp hu').1
  · refine h.iterators.close (fun iterator hmade => ?_) fun iterator hmade => ?_
    · exact (hends.owner _).trans (hclears.none _ (Or.inl ⟨iterator, hmade, rfl⟩))
    · exact (hends.owner _).trans (hclears.kept _ (by simpa using hmade))
  · refine h.snapshots.close (fun snapshot hmade => ?_) fun snapshot hmade => ?_
    · exact (hends.owner _).trans (hclears.none _ (Or.inr ⟨snapshot, hmade, rfl⟩))
    · exact (hends.owner _).trans (hclears.kept _ (by simpa using hmade))

theorem Orderly.freeIterator (h : d.Orderly) {t : Token} {child : Child IteratorId}
    (hheld : (t, child) ∈ d.iterators.held) (given : Option Token) :
    (d.carryOut given (.freeIterator t child.thing)).1.Orderly := by
  have hclears := Store.clears_dropIterator h.steady child.thing
  refine ⟨hclears.steady, h.databases, fun hmem => (hclears.isOpen _).trans (h.isOpen hmem),
    h.sole, ?_, ?_, h.batches⟩
  · exact h.iterators.free (fun _ _ => Borrower.iterator.inj) hheld hclears.owner?_eq
  · refine h.snapshots.congr (fun snapshot => ?_) fun _ hmem => hmem
    exact hclears.kept _ (by simp)

theorem Orderly.freeSnapshot (h : d.Orderly) {t : Token} {child : Child SnapshotId}
    (hheld : (t, child) ∈ d.snapshots.held) (given : Option Token) :
    (d.carryOut given (.freeSnapshot t child.thing)).1.Orderly := by
  have hclears := Store.clears_dropSnapshot h.steady child.thing
  refine ⟨hclears.steady, h.databases, fun hmem => (hclears.isOpen _).trans (h.isOpen hmem),
    h.sole, ?_, ?_, h.batches⟩
  · refine h.iterators.congr (fun iterator => ?_) fun _ hmem => hmem
    exact hclears.kept _ (by simp)
  · exact h.snapshots.free (fun _ _ => Borrower.snapshot.inj) hheld hclears.owner?_eq

theorem Orderly.withBatches (h : d.Orderly) {batches : Ledger Batch} (hvalid : batches.Valid) :
    Orderly { d with batches := batches } :=
  ⟨h.steady, h.databases, h.isOpen, h.sole, h.iterators, h.snapshots, hvalid⟩

/-- Every order that finds what it names keeps the desk orderly. -/
theorem Orderly.carryOut (h : d.Orderly) {order : Order} (hfinds : d.Finds order)
    {given : Option Token} (hfresh : d.Fresh order given) :
    (d.carryOut given order).1.Orderly := by
  cases hfinds with
  | act hready hbuilding => exact h.act hready hbuilding hfresh
  | close hheld => exact h.close hheld given
  | freeIterator hheld => exact h.freeIterator hheld given
  | freeSnapshot hheld => exact h.freeSnapshot hheld given
  | isValid hheld => exact h
  | read hheld part => exact h
  | @status t child hheld =>
    have hsame := settle_of_not_built d 0 none
      (rfl : (Store.Answer.done (d.store.status child.thing)).isBuilt = false)
    show (d.settle 0 none (.done (d.store.status child.thing))).1.Orderly
    rw [hsame]
    exact h
  | createBatch =>
    cases given with
    | none => exact h
    | some t =>
      obtain ⟨hzero, hnew⟩ := hfresh .batch t rfl rfl
      exact h.withBatches (h.batches.give hzero hnew .empty)
  | setBatch t batch => exact h.withBatches (h.batches.alter t batch)
  | countBatch batch => exact h
  | freeBatch t => exact h.withBatches (h.batches.strike fun u _ => u = t)
  | listen filter =>
    have hsteady : Store.Steady { d.store with filter := filter } :=
      ⟨h.steady.coherent, h.steady.mild, h.steady.quiet⟩
    exact ⟨hsteady, h.databases, h.isOpen, h.sole, h.iterators, h.snapshots, h.batches⟩

/-! ## What is told -/

/-- A reply that passes on an answer fails with the error of the answer, or for want of a
token. -/
theorem failure_of_settle {owner : Token} {given : Option Token} {answer : Store.Answer}
    {failure : Failure} (h : (d.settle owner given answer).2.failure = some failure) :
    (∃ e, answer.error? = some e ∧ failure = .store e) ∨
      ∃ kind, failure = .handle (.exhausted kind) := by
  have hgiven : ∀ kind kept dropped, (handOut kind given kept dropped).2.failure = some failure →
      failure = .handle (.exhausted kind) := by
    intro kind kept dropped hfailure
    cases given with
    | some t => simp [handOut] at hfailure
    | none => exact (Option.some.inj hfailure).symm
  cases answer with
  | opened outcome =>
    cases outcome with
    | ok id => exact Or.inr ⟨_, hgiven _ _ _ h⟩
    | error e => exact Or.inl ⟨e, rfl, (Option.some.inj h).symm⟩
  | snapshot outcome =>
    cases outcome with
    | ok snapshot => exact Or.inr ⟨_, hgiven _ _ _ h⟩
    | error e => exact Or.inl ⟨e, rfl, (Option.some.inj h).symm⟩
  | iterator outcome =>
    cases outcome with
    | ok iterator => exact Or.inr ⟨_, hgiven _ _ _ h⟩
    | error e => exact Or.inl ⟨e, rfl, (Option.some.inj h).symm⟩
  | done outcome =>
    cases outcome with
    | ok _ => simp [settle] at h
    | error e => exact Or.inl ⟨e, rfl, (Option.some.inj h).symm⟩
  | value outcome =>
    cases outcome with
    | ok value => simp [settle] at h
    | error e => exact Or.inl ⟨e, rfl, (Option.some.inj h).symm⟩
  | text text => simp [settle] at h

/-- A store error in a reply is the one of the answer that the reply passes on. -/
theorem error?_of_settle {owner : Token} {given : Option Token} {answer : Store.Answer}
    {e : Error} (h : (d.settle owner given answer).2.failure = some (.store e)) :
    answer.error? = some e := by
  rcases failure_of_settle h with ⟨e', he, heq⟩ | ⟨kind, heq⟩
  · rw [he, Failure.store.inj heq]
  · simp at heq

theorem code_ne_closed {output : Output} {e : Error} (h : e.isClosed = false) :
    Reply.code ⟨output, some (.store e)⟩ ≠ .closed := by
  cases e with
  | closed resource => simp [Error.isClosed] at h
  | _ => simp [Reply.code, Failure.code, ResultCode.ofError]

theorem settle_code_ne_closed (d : Desk) (owner : Token) (given : Option Token)
    {answer : Store.Answer} (h : answer.Mild) : (d.settle owner given answer).2.code ≠ .closed := by
  cases hreply : (d.settle owner given answer).2 with
  | mk output failure? =>
    cases failure? with
    | none => simp [Reply.code]
    | some failure =>
      rcases failure_of_settle (congrArg Reply.failure hreply) with ⟨e, he, rfl⟩ | ⟨kind, rfl⟩
      · exact code_ne_closed (h.error? he)
      · simp [Reply.code, Failure.code, ResultCode.ofHandleFault]

/-- No order fails for something that is closed. -/
theorem Orderly.code_ne_closed (h : d.Orderly) {order : Order} (hfinds : d.Finds order)
    (given : Option Token) : (d.carryOut given order).2.code ≠ .closed := by
  cases hfinds with
  | act hready hbuilding =>
    obtain ⟨_, _, hmild⟩ := hready.effect h.steady
    exact settle_code_ne_closed _ _ given hmild
  | @status t child hheld =>
    obtain ⟨id, hdatabase, howner⟩ := h.iterators.owned hheld
    obtain ⟨row, hrow, rfl⟩ := Store.row_of_owner howner
    have hmild : Store.Answer.Mild (.done (d.store.status child.thing)) :=
      Store.mild_status h.steady.mild hrow (h.isOpen hdatabase)
    exact settle_code_ne_closed _ _ none hmild
  | createBatch =>
    cases given <;>
      simp [Desk.carryOut, handOut, Reply.code, Failure.code, ResultCode.ofHandleFault]
  | _ => simp [Desk.carryOut, Reply.code]

end Desk

end OrderedStore
