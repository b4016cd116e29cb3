import Mathlib.Order.Bounds.Basic
import OrderedStore.Proofs.Store.Contents
import OrderedStore.Proofs.Text.Digits
import OrderedStore.Trial.Stress

/-!
# What readers beside a writer come to

A run takes the next step of some thread, again and again, until no thread has any left.
`Interleaves` says which lists of steps come about in this way; the schedule of a plan is one
of them.

Whatever the order, every step succeeds, and the readers do not matter for what is left: the
steps that write are the writer's, in the writer's order.  Of the numbers that fall on one key
the last one stays.
-/

set_option autoImplicit false

namespace OrderedStore.Trial

/-! ## Interleavings -/

/-- The steps of threads in an order in which they can be taken. -/
inductive Interleaves {α : Type} : List (List α) → List α → Prop where
  | done {threads : List (List α)} (idle : ∀ thread ∈ threads, thread = []) :
    Interleaves threads []
  /-- One of the threads takes its next step. -/
  | step {threads : List (List α)} {i : Nat} {a : α} {rest taken : List α}
    (next : threads[i]? = some (a :: rest)) (later : Interleaves (threads.set i rest) taken) :
    Interleaves threads (a :: taken)

namespace Interleaves

variable {α β : Type} {threads : List (List α)} {taken rest : List α} {a : α} {i : Nat}

theorem perm_of_next (h : threads[i]? = some (a :: rest)) :
    threads.flatten.Perm (a :: (threads.set i rest).flatten) := by
  induction threads generalizing i with
  | nil => simp at h
  | cons thread threads ih =>
    cases i with
    | zero =>
      obtain rfl : thread = a :: rest := by simpa using h
      exact .refl _
    | succ i =>
      have hlater := (ih (by simpa using h)).append_left thread
      exact hlater.trans List.perm_middle

/-- Every step of every thread is taken once. -/
theorem perm (h : Interleaves threads taken) : taken.Perm threads.flatten := by
  induction h with
  | done hidle =>
    rw [List.flatten_eq_nil_iff.mpr hidle]
  | step hnext _ ih => exact (ih.cons _).trans (perm_of_next hnext).symm

/-- What only one of the threads has is taken in the order of that thread. -/
theorem filterMap_eq (h : Interleaves threads taken) {pick : α → Option β}
    (hothers : ∀ {k thread}, k ≠ i → threads[k]? = some thread → ∀ a ∈ thread, pick a = none) :
    taken.filterMap pick = (threads[i]?.getD []).filterMap pick := by
  induction h with
  | @done threads hidle =>
    cases hthread : threads[i]? with
    | none => rfl
    | some thread =>
      rw [hidle thread (List.mem_of_getElem? hthread)]
      rfl
  | @step threads k a rest taken hnext _ ih =>
    have hlater := ih fun {j thread} hj hthread b hb => by
      rw [List.getElem?_set] at hthread
      split at hthread
      · rename_i hkj
        subst hkj
        obtain rfl := Option.some.inj (Option.ite_none_right_eq_some.mp hthread).2
        exact hothers hj hnext b (List.mem_cons_of_mem a hb)
      · exact hothers hj hthread b hb
    by_cases hki : k = i
    · subst hki
      obtain ⟨hk, _⟩ := List.getElem?_eq_some_iff.mp hnext
      rw [List.getElem?_set_self hk] at hlater
      rw [hnext]
      simp only [Option.getD_some, List.filterMap_cons] at hlater ⊢
      rw [hlater]
    · rw [List.getElem?_set_ne hki] at hlater
      rw [List.filterMap_cons_none (hothers hki hnext a List.mem_cons_self), hlater]

/-- One thread after the other. -/
theorem flatten (threads : List (List α)) : Interleaves threads threads.flatten := by
  have hidle : ∀ {threads : List (List α)} {taken : List α}, Interleaves threads taken →
      Interleaves ([] :: threads) taken := by
    intro threads taken h
    induction h with
    | done hidle => exact .done (by simpa using hidle)
    | @step threads i a rest taken hnext _ ih =>
      exact .step (i := i + 1) (by simpa using hnext) ih
  induction threads with
  | nil => exact .done (by simp)
  | cons thread threads ih =>
    induction thread with
    | nil => exact hidle ih
    | cons a rest ih => exact .step (i := 0) rfl ih

end Interleaves

/-! ## The threads of a plan -/

namespace Plan

variable {plan : Plan}

/-- One thread after the other is a run. -/
theorem interleaves_schedule (plan : Plan) : Interleaves plan.threads plan.schedule :=
  .flatten plan.threads

theorem length_thread {thread : List Act} (h : thread ∈ plan.threads) :
    thread.length = plan.operations := by
  rcases List.mem_cons.mp h with rfl | h
  · rw [writer, List.length_map, List.length_range]
  · obtain ⟨t, _, rfl⟩ := List.mem_map.mp h
    rw [reader, List.length_map, List.length_range]

theorem length_schedule (plan : Plan) :
    plan.schedule.length = plan.operations * (plan.readers + 1) := by
  have hlengths : plan.threads.map List.length =
      List.replicate (plan.readers + 1) plan.operations := by
    refine List.eq_replicate_iff.mpr ⟨by simp [threads], fun n hn => ?_⟩
    obtain ⟨thread, hthread, rfl⟩ := List.mem_map.mp hn
    exact length_thread hthread
  rw [schedule, List.length_flatten, hlengths, List.sum_replicate_nat, Nat.mul_comm]

end Plan

/-- What a step writes. -/
def Act.mutation? : Act → Option Mutation
  | .write key value => some (.put key value)
  | .read _ => none

namespace Plan

variable {plan : Plan} {acts : List Act}

/-- In every run the writes are the writer's, in its order. -/
theorem mutations_of_interleaves (h : Interleaves plan.threads acts) :
    acts.filterMap Act.mutation? = Mutation.puts plan.key stamp plan.operations := by
  have hreaders : ∀ {k thread}, k ≠ 0 → plan.threads[k]? = some thread →
      ∀ a ∈ thread, a.mutation? = none := by
    intro k thread hk hthread a ha
    obtain ⟨k, rfl⟩ := Nat.exists_eq_succ_of_ne_zero hk
    rw [threads, List.getElem?_cons_succ] at hthread
    obtain ⟨t, _, rfl⟩ := List.mem_map.mp (List.mem_of_getElem? hthread)
    obtain ⟨i, _, rfl⟩ := List.mem_map.mp ha
    rfl
  rw [h.filterMap_eq hreaders]
  show plan.writer.filterMap Act.mutation? = _
  rw [writer, List.filterMap_map, Mutation.puts, ← List.filterMap_eq_map]
  rfl

end Plan

/-! ## Runs -/

section Run

variable {s : Store} {id : SessionId} {m : Keyspace}

/-- No step fails where the session is in order, and what it offers changes by the writes. -/
theorem offers_foldl (h : s.Offers id m) (tally : Tally) (acts : List Act) :
    (acts.foldl (act id) (s, tally)).1.Offers id (m.applyAll (acts.filterMap Act.mutation?)) ∧
      (acts.foldl (act id) (s, tally)).2 =
        ⟨tally.successful + acts.length, tally.failed⟩ := by
  induction acts generalizing s m tally with
  | nil => exact ⟨h, rfl⟩
  | cons a rest ih =>
    rw [List.foldl_cons, List.length_cons, Nat.add_comm rest.length, ← Nat.add_assoc]
    cases a with
    | write key value =>
      obtain ⟨houtcome, hoffers⟩ := h.commit ⟨[.put key value], false⟩
      have hact : act id (s, tally) (.write key value) =
          ((s.put id key value false).1, ⟨tally.successful + 1, tally.failed⟩) :=
        congrArg (fun outcome => ((s.put id key value false).1, tally.add outcome)) houtcome
      rw [hact]
      exact ih hoffers _
    | read key =>
      obtain ⟨houtcome, hoffers⟩ := h.get key
      have hact : act id (s, tally) (.read key) =
          ((s.get id none key).1, ⟨tally.successful + 1, tally.failed⟩) :=
        congrArg (fun outcome => ((s.get id none key).1, tally.add outcome)) houtcome
      rw [hact]
      exact ih hoffers _

end Run

/-! ## What is left -/

namespace Plan

variable {plan : Plan}

/-- The name of a key by its number. -/
def name (j : Nat) : Bytes := utf8 (String.ofList ('k' :: Text.decimal j))

theorem name_injective : Function.Injective name := fun _ _ h =>
  Text.decimal_injective (List.cons.inj (utf8_ofList_injective h)).2

/-- The last number that falls on a key, if there are any. -/
def last (plan : Plan) (j : Nat) : Nat :=
  j + plan.keyCount * ((plan.operations - 1 - j) / plan.keyCount)

theorem isGreatest_last {j : Nat} (hoperations : j < plan.operations) (hkeys : j < plan.keyCount) :
    IsGreatest {i | i < plan.operations ∧ i % plan.keyCount = j} (plan.last j) := by
  have hmultiple := Nat.mul_div_le (plan.operations - 1 - j) plan.keyCount
  refine ⟨⟨?_, ?_⟩, fun i hi => ?_⟩
  · unfold last
    omega
  · rw [last, Nat.add_mul_mod_self_left, Nat.mod_eq_of_lt hkeys]
  · obtain ⟨hlt, hmod⟩ := hi
    have hi := Nat.mod_add_div i plan.keyCount
    rw [hmod] at hi
    have hquotient : i / plan.keyCount ≤ (plan.operations - 1 - j) / plan.keyCount := by
      refine (Nat.le_div_iff_mul_le (Nat.zero_lt_of_lt hkeys)).mpr ?_
      rw [Nat.mul_comm]
      omega
    have hle := Nat.mul_le_mul_left plan.keyCount hquotient
    unfold last
    omega

/-- One entry for each key that was written to, with the last number that fell on it. -/
def remains (plan : Plan) : List Entry :=
  (List.range (min plan.operations plan.keyCount)).map fun j => (name j, stamp (plan.last j))

theorem nodup_remains (plan : Plan) : plan.remains.Nodup :=
  List.nodup_range.map fun _ _ h => name_injective (Prod.mk.inj h).1

theorem perm_remains (hkeys : 0 < plan.keyCount) :
    (Keyspace.empty.applyAll (Mutation.puts plan.key stamp plan.operations)).entries.Perm
      plan.remains := by
  refine Keyspace.perm_entries plan.nodup_remains fun key value => ?_
  rw [Keyspace.get?_puts, remains, List.mem_map]
  constructor
  · rintro ⟨i, hi, rfl, rfl, hgreatest⟩
    have hfalls : i % plan.keyCount < plan.keyCount := Nat.mod_lt i hkeys
    have hbelow : i % plan.keyCount < plan.operations :=
      Nat.lt_of_le_of_lt (Nat.mod_le i plan.keyCount) hi
    have hlast := isGreatest_last hbelow hfalls
    have heq : plan.last (i % plan.keyCount) = i :=
      Nat.le_antisymm (hgreatest _ hlast.1.1 (congrArg name hlast.1.2)) (hlast.2 ⟨hi, rfl⟩)
    exact ⟨i % plan.keyCount, List.mem_range.mpr (Nat.lt_min.mpr ⟨hbelow, hfalls⟩), by
      rw [heq]
      rfl⟩
  · rintro ⟨j, hj, hentry⟩
    obtain ⟨hoperations, hkey⟩ := Nat.lt_min.mp (List.mem_range.mp hj)
    obtain ⟨rfl, rfl⟩ := Prod.mk.inj hentry
    have hlast := isGreatest_last hoperations hkey
    refine ⟨plan.last j, hlast.1.1, congrArg name hlast.1.2, rfl, fun i hi hname => ?_⟩
    exact hlast.2 ⟨hi, name_injective hname⟩

end Plan

/-- What a run of a plan on a database in memory comes to. -/
structure Plan.Result (plan : Plan) (id : SessionId) (s : Store) (tally : Tally) : Prop where
  failed : tally.failed = 0
  successful : tally.successful = plan.operations * (plan.readers + 1)
  /-- Each key that a number fell on has the greatest such number, and there is nothing
  else. -/
  contents : ∃ (m : Keyspace) (last : Nat → Nat), (s.latest id).2 = .ok m ∧
    m.entries.Perm ((List.range (min plan.operations plan.keyCount)).map fun j =>
      (utf8 (String.ofList ('k' :: Text.decimal j)), Image.littleEndian 8 (last j))) ∧
    ∀ j < min plan.operations plan.keyCount,
      IsGreatest {i | i < plan.operations ∧ i % plan.keyCount = j} (last j)

/-- Whatever turns the readers and the writer take on a database in memory whose engine grants all
writes, nothing fails, and what is left is the last number on every key. -/
theorem stress_result {s s' : Store} {options : Options} {id : SessionId}
    (hopened : s.openInMemory options = (s', .ok id)) (hgrants : s.verdicts.GrantsWrites)
    {plan : Plan} (hkeys : 0 < plan.keyCount) {acts : List Act}
    (h : Interleaves plan.threads acts) :
    plan.Result id (run s' id acts).1 (run s' id acts).2 := by
  obtain ⟨hoffers, htally⟩ :=
    offers_foldl (Store.offers_of_openInMemory hgrants hopened) ⟨0, 0⟩ acts
  rw [Plan.mutations_of_interleaves h] at hoffers
  refine ⟨congrArg Tally.failed htally, ?_, _, plan.last, hoffers.latest.1,
    Plan.perm_remains hkeys, fun j hj => ?_⟩
  · refine (congrArg Tally.successful htally).trans ?_
    rw [Nat.zero_add, h.perm.length_eq]
    exact plan.length_schedule
  · obtain ⟨hoperations, hkey⟩ := Nat.lt_min.mp hj
    exact Plan.isGreatest_last hoperations hkey

/-- The theorem on two threads that take turns, with three numbers on two keys. -/
theorem stress_result_taking_turns :
    Store.empty.verdicts.GrantsWrites ∧ 0 < (⟨3, 1, 2⟩ : Plan).keyCount ∧
      Plan.Result ⟨3, 1, 2⟩ ⟨0⟩
        (run (Store.empty.openInMemory {}).1 ⟨0⟩
          [.read (Plan.name 0), .write (Plan.name 0) (Plan.stamp 0),
            .write (Plan.name 1) (Plan.stamp 1), .read (Plan.name 1),
            .write (Plan.name 0) (Plan.stamp 2), .read (Plan.name 0)]).1
        (run (Store.empty.openInMemory {}).1 ⟨0⟩
          [.read (Plan.name 0), .write (Plan.name 0) (Plan.stamp 0),
            .write (Plan.name 1) (Plan.stamp 1), .read (Plan.name 1),
            .write (Plan.name 0) (Plan.stamp 2), .read (Plan.name 0)]).2 :=
  ⟨Verdicts.grantsWrites_granting, by decide,
    stress_result (show Store.empty.openInMemory {} = (_, .ok ⟨0⟩) from rfl)
      Verdicts.grantsWrites_granting (by decide) <|
      .step (i := 1) rfl <| .step (i := 0) rfl <| .step (i := 0) rfl <| .step (i := 1) rfl <|
        .step (i := 0) rfl <| .step (i := 1) rfl <| .done (by decide)⟩

end OrderedStore.Trial
