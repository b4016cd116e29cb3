import OrderedStore.Proofs.Store.Contents
import OrderedStore.Proofs.Text.Digits
import OrderedStore.Trial.Fixture

/-!
# What a populated fixture holds

A fixture is populated by one write after the other.  None of them fails, so that it has all
its numbered entries, and a scan yields them in the order of their keys.  That is the order
of the numbers as long as all numbers have as many digits as the keys are padded to.  With
one number more the order is lost, as the longest key begins with the least digit.
-/

set_option autoImplicit false

namespace OrderedStore.Trial

/-! ## Keys -/

theorem key_injective : Function.Injective key := fun _ _ h =>
  Text.paddedDecimal_injective keyWidth (List.append_cancel_left (utf8_ofList_injective h))

/-- Keys are in the order of the numbers that fit the width. -/
theorem key_lt {i j : Nat} (hij : i < j) (hj : j < 10 ^ keyWidth) : key i < key j :=
  Text.utf8_append_lt (by decide) "key-".toList hij hj

/-- The first number that does not fit has a key before that of the last one that does. -/
theorem key_width_lt : key (10 ^ keyWidth) < key (10 ^ keyWidth - 1) := by decide +kernel

/-- The entries below a number, by number. -/
def numbered (n : Nat) : List Entry := (List.range n).map fun i => (key i, value i)

theorem nodup_numbered (n : Nat) : (numbered n).Nodup :=
  List.nodup_range.map fun _ _ h => key_injective (Prod.mk.inj h).1

/-- The keys go up with the numbers exactly as long as the numbers fit the width. -/
theorem ascending_numbered_iff {n : Nat} : Ascending (numbered n) ↔ n ≤ 10 ^ keyWidth := by
  simp only [Ascending, numbered, List.pairwise_map]
  have hpos : 0 < 10 ^ keyWidth := by decide
  constructor
  · intro h
    have hlt : ∀ i j, i < j → j < n → key i < key j := by
      intro i j hij hj
      have hrange : j < (List.range n).length := by rwa [List.length_range]
      have hpair := List.pairwise_iff_getElem.mp h i j (Nat.lt_trans hij hrange) hrange hij
      rwa [List.getElem_range, List.getElem_range] at hpair
    refine Nat.le_of_not_lt fun hn => Bytes.lt_asymm key_width_lt ?_
    exact hlt (10 ^ keyWidth - 1) (10 ^ keyWidth) (Nat.sub_lt hpos Nat.one_pos) hn
  · intro hn
    refine List.pairwise_lt_range.imp_of_mem fun _ hj hij => ?_
    exact key_lt hij (Nat.lt_of_lt_of_le (List.mem_range.mp hj) hn)

/-! ## Opening in good faith -/

/-- The faith is justified if the engine sets up the keyspace. -/
theorem openInMemory_of_grants {s : Store} (hadopt : s.verdicts.refusal (.adopt none) = none)
    (hgrants : s.verdicts.Grants .memory []) (options : Options) :
    s.openInMemory options = ((s.openMemory options).1, .ok (s.openMemory options).2) := by
  have hengine : Engine.openInMemory
      (s.allocateCache (s.logger Store.memoryName) options).verdicts = .ok .inMemory := by
    rw [(Store.reported_allocateCache s _ options).verdicts, Engine.openInMemory, hadopt]
    simp only [Engine.transact_of_grants hgrants]
    rfl
  unfold Store.openInMemory
  simp only [hengine]
  rfl

namespace Fixture

variable {fixture : Fixture} {m : Keyspace}

/-! ## Populating -/

/-- A fixture in order, with its map. -/
structure Stocks (fixture : Fixture) (m : Keyspace) : Prop where
  offers : fixture.store.Offers fixture.session m
  coherent : fixture.store.roster.Coherent

/-- A new fixture comes about, and it has nothing. -/
theorem exists_fresh : ∃ fixture, fresh = .ok fixture ∧ fixture.Stocks .empty := by
  have hopened : (Store.empty.openAt path {}).2 = .ok ⟨0⟩ := rfl
  refine ⟨⟨(Store.empty.openAt path {}).1, ⟨0⟩⟩, rfl,
    ⟨Verdicts.grantsWrites_granting, _, rfl, rfl, rfl⟩, ?_⟩
  exact Store.coherent_perform (Store.coherent_ofVolume .empty) (.openAt path {})

/-- Commits do not fail, and each is applied to the map. -/
theorem Stocks.commitAll (h : fixture.Stocks m) (mutations : List Mutation) :
    ∃ fixture', fixture.commitAll mutations = .ok fixture' ∧
      fixture'.Stocks (m.applyAll mutations) := by
  induction mutations generalizing fixture m with
  | nil => exact ⟨fixture, rfl, h⟩
  | cons mutation rest ih =>
    obtain ⟨houtcome, hoffers⟩ := h.offers.commit ⟨[mutation], false⟩
    have hcommit : fixture.store.commit fixture.session ⟨[mutation], false⟩ =
        ((fixture.store.commit fixture.session ⟨[mutation], false⟩).1, .ok ()) :=
      Prod.ext rfl houtcome
    rw [Fixture.commitAll, hcommit]
    exact ih ⟨hoffers, Store.coherent_commit h.coherent fixture.session ⟨[mutation], false⟩⟩

/-- A scan of the database yields the map. -/
theorem Stocks.entries (h : fixture.Stocks m) :
    fixture.entries = .ok (m.entries.map .ok) := by
  obtain ⟨iterator, hiterator, hitems⟩ := h.offers.scan h.coherent
  have hiterate : fixture.store.iterate fixture.session none =
      ((fixture.store.iterate fixture.session none).1, .ok iterator) := Prod.ext rfl hiterator
  rw [Fixture.entries, dump, hiterate]
  exact congrArg Except.ok hitems

theorem exists_populated (n : Nat) :
    ∃ fixture, populated n = .ok fixture ∧
      fixture.Stocks (Keyspace.empty.applyAll (Mutation.puts key value n)) := by
  obtain ⟨fixture, hfresh, hstocks⟩ := exists_fresh
  obtain ⟨fixture', hpopulated, hstocks'⟩ := hstocks.commitAll (population n)
  exact ⟨fixture', by rw [populated, hfresh]; exact hpopulated, hstocks'⟩

end Fixture

/-- The writes of a population leave the numbered entries, each under a key of its own. -/
theorem perm_numbered (n : Nat) :
    (Keyspace.empty.applyAll (Mutation.puts key value n)).entries.Perm (numbered n) := by
  refine Keyspace.perm_entries (nodup_numbered n) fun k v => ?_
  rw [Keyspace.get?_puts, numbered, List.mem_map]
  constructor
  · rintro ⟨i, hi, rfl, rfl, _⟩
    exact ⟨i, List.mem_range.mpr hi, rfl⟩
  · rintro ⟨i, hi, hentry⟩
    obtain ⟨rfl, rfl⟩ := Prod.mk.inj hentry
    exact ⟨i, List.mem_range.mp hi, rfl, rfl, fun j _ hj => Nat.le_of_eq (key_injective hj)⟩

/-- A populated fixture comes about and scans its numbered entries, each once and nothing
else.  They come in the order of the numbers exactly if there are at most a million. -/
theorem populated_exact (n : Nat) :
    Function.Injective key ∧ ∃ fixture entries, Fixture.populated n = .ok fixture ∧
      fixture.entries = .ok (entries.map .ok) ∧ entries.length = n ∧
      entries.Perm (numbered n) ∧ (entries = numbered n ↔ n ≤ 1000000) := by
  obtain ⟨fixture, hpopulated, hstocks⟩ := Fixture.exists_populated n
  have hperm := perm_numbered n
  refine ⟨key_injective, fixture, _, hpopulated, hstocks.entries, ?_, hperm, ?_⟩
  · rw [hperm.length_eq, numbered, List.length_map, List.length_range]
  · have hwidth : 10 ^ keyWidth = 1000000 := by decide
    have hascending := (Keyspace.empty.applyAll (Mutation.puts key value n)).ascending
    rw [← hwidth, ← ascending_numbered_iff]
    exact ⟨fun heq => heq ▸ hascending, fun h => hascending.eq_of_perm h hperm⟩

end OrderedStore.Trial
