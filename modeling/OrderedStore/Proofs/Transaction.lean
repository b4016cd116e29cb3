import OrderedStore.Engine
import OrderedStore.Proofs.Batch

/-!
# Transactions that the engine may refuse

A transaction takes its steps one after the other, and the engine may refuse each of them.
`Transaction.through_cases` says where it ends: behind its last step, or right before the first
one that is refused.  No step before the commit touches the engine or the volume
(`Pending.foldl`), and the commit is the last step, so whichever step is refused, the engine and
the volume are what they were: `Engine.transact_cases`.
-/

set_option autoImplicit false

namespace OrderedStore

namespace Transaction

/-- The mutation that a step applies. -/
def Step.mutation? : Step → Option Mutation
  | .apply mutation => some mutation
  | _ => none

end Transaction

namespace Verdicts

open Transaction

variable {verdicts : Verdicts} {purpose : Purpose} {mutations : List Mutation}

/-- The engine grants each of the first steps of a transaction, in its turn. -/
def GrantsSteps (verdicts : Verdicts) (purpose : Purpose) (taken : List Step) : Prop :=
  ∀ before step after, taken = before ++ step :: after →
    verdicts.refusal (.transact purpose (before.filterMap Step.mutation?) step) = none

/-- The engine grants every step of a transaction with these mutations. -/
def Grants (verdicts : Verdicts) (purpose : Purpose) (mutations : List Mutation) : Prop :=
  verdicts.GrantsSteps purpose (steps mutations)

/-- The engine grants whatever is written for a caller. -/
def GrantsWrites (verdicts : Verdicts) : Prop := ∀ mutations, verdicts.Grants .write mutations

/-- The engine refuses a step of a transaction with these mutations, the first that it does not
grant. -/
def Refuses (verdicts : Verdicts) (purpose : Purpose) (mutations : List Mutation)
    (fault : Fault) : Prop :=
  ∃ before step after, steps mutations = before ++ step :: after ∧
    verdicts.GrantsSteps purpose before ∧
    verdicts.refusal (.transact purpose (before.filterMap Step.mutation?) step) = some fault

/-- The engine has refused something with this error. -/
def Says (verdicts : Verdicts) (e : Error) : Prop :=
  ∃ question fault, verdicts.refusal question = some fault ∧ e = .ofFault fault

theorem says_of_refusal {question : Question} {fault : Fault}
    (h : verdicts.refusal question = some fault) : verdicts.Says (.ofFault fault) :=
  ⟨question, fault, h, rfl⟩

theorem Refuses.says {fault : Fault} (h : verdicts.Refuses purpose mutations fault) :
    verdicts.Says (.ofFault fault) := by
  obtain ⟨_, _, _, _, _, hrefusal⟩ := h
  exact says_of_refusal hrefusal

theorem Grants.not_refuses (h : verdicts.Grants purpose mutations) (fault : Fault) :
    ¬ verdicts.Refuses purpose mutations fault := by
  rintro ⟨before, step, after, hsteps, _, hfault⟩
  rw [h before step after hsteps] at hfault
  simp at hfault

/-- It is refused for one reason only. -/
theorem Refuses.unique {fault fault' : Fault} (h : verdicts.Refuses purpose mutations fault)
    (h' : verdicts.Refuses purpose mutations fault') : fault = fault' := by
  obtain ⟨before, step, after, hsteps, hgrants, hfault⟩ := h
  obtain ⟨before', step', after', hsteps', hgrants', hfault'⟩ := h'
  -- If one of them came later, the other one would have been granted.
  rcases List.append_eq_append_iff.mp (hsteps.symm.trans hsteps') with
    ⟨between, rfl, hrest⟩ | ⟨between, rfl, hrest⟩
  · cases between with
    | nil =>
      obtain ⟨rfl, _⟩ := List.cons.inj hrest
      rw [List.append_nil, hfault] at hfault'
      exact Option.some.inj hfault'
    | cons first between =>
      obtain ⟨rfl, _⟩ := List.cons.inj hrest
      rw [hgrants' before _ between rfl] at hfault
      simp at hfault
  · cases between with
    | nil =>
      obtain ⟨rfl, _⟩ := List.cons.inj hrest
      rw [List.append_nil, hfault'] at hfault
      exact (Option.some.inj hfault).symm
    | cons first between =>
      obtain ⟨rfl, _⟩ := List.cons.inj hrest
      rw [hgrants before' _ between rfl] at hfault'
      simp at hfault'

theorem grants_granting (purpose : Purpose) (mutations : List Mutation) :
    granting.Grants purpose mutations := fun _ _ _ _ => rfl

theorem grantsWrites_granting : granting.GrantsWrites := grants_granting .write

end Verdicts

namespace Transaction

variable {t : Transaction} {v : Volume} {engine : Engine} {verdicts : Verdicts}
  {purpose : Purpose}

/-! ## Steps -/

theorem applied_perform (t : Transaction) (step : Step) :
    (t.perform step).applied = t.applied ++ step.mutation?.toList := by
  cases step <;> simp [perform, Step.mutation?]

theorem applied_foldl (t : Transaction) (taken : List Step) :
    (taken.foldl perform t).applied = t.applied ++ taken.filterMap Step.mutation? := by
  induction taken generalizing t with
  | nil => simp
  | cons step rest ih =>
    rw [List.foldl_cons, ih, applied_perform, List.append_assoc]
    cases hstep : step.mutation? with
    | none => rw [List.filterMap_cons_none hstep, Option.toList_none, List.nil_append]
    | some mutation =>
      rw [List.filterMap_cons_some hstep, Option.toList_some, List.singleton_append]

/-- A transaction that has not been committed: nothing but what it has staged is new. -/
structure Pending (v : Volume) (engine : Engine) (t : Transaction) : Prop where
  volume_eq : t.volume = v
  engine_eq : t.engine = engine
  staged_eq : t.staged = engine.latest.applyAll t.applied

theorem pending_on (v : Volume) (engine : Engine) : Pending v engine (on v engine) :=
  ⟨rfl, rfl, rfl⟩

theorem Pending.perform (h : Pending v engine t) {step : Step} (hstep : step ≠ .commit) :
    Pending v engine (t.perform step) := by
  cases step with
  | start => exact h
  | openTable => exact h
  | apply mutation =>
    refine ⟨h.volume_eq, h.engine_eq, ?_⟩
    show t.staged.apply mutation = engine.latest.applyAll (t.applied ++ [mutation])
    rw [h.staged_eq, Keyspace.applyAll_append]
    rfl
  | commit => exact absurd rfl hstep

theorem Pending.foldl (h : Pending v engine t) {taken : List Step} (htaken : .commit ∉ taken) :
    Pending v engine (taken.foldl Transaction.perform t) := by
  induction taken generalizing t with
  | nil => exact h
  | cons step rest ih =>
    obtain ⟨hstep, hrest⟩ := not_or.mp (fun hmem => htaken (List.mem_cons.mpr hmem))
    exact ih (h.perform fun heq => hstep heq.symm) hrest

/-! ## Runs -/

/-- Each of these steps is granted in its turn, from this state of the transaction on. -/
def GrantedBy (t : Transaction) (verdicts : Verdicts) (purpose : Purpose)
    (taken : List Step) : Prop :=
  ∀ before step after, taken = before ++ step :: after →
    verdicts.refusal (.transact purpose (before.foldl perform t).applied step) = none

theorem grantedBy_nil : t.GrantedBy verdicts purpose [] :=
  fun before step after h => by simp at h

theorem GrantedBy.cons {step : Step} {taken : List Step}
    (hstep : verdicts.refusal (.transact purpose t.applied step) = none)
    (h : (t.perform step).GrantedBy verdicts purpose taken) :
    t.GrantedBy verdicts purpose (step :: taken) := by
  intro before later after hsplit
  cases before with
  | nil =>
    obtain ⟨rfl, _⟩ := List.cons.inj hsplit
    exact hstep
  | cons first before =>
    obtain ⟨rfl, hrest⟩ := List.cons.inj hsplit
    exact h before later after hrest

/-- At its begin a transaction has applied nothing, so what it has applied later is told by its
steps. -/
theorem applied_on (v : Volume) (engine : Engine) (taken : List Step) :
    (taken.foldl perform (on v engine)).applied = taken.filterMap Step.mutation? := by
  rw [applied_foldl]
  rfl

theorem grantedBy_on {taken : List Step} :
    (on v engine).GrantedBy verdicts purpose taken ↔ verdicts.GrantsSteps purpose taken := by
  unfold GrantedBy Verdicts.GrantsSteps
  simp only [applied_on]

/-- A transaction goes through with its steps if each is granted in its turn; otherwise it stops
right before the first one that is not. -/
theorem through_cases (verdicts : Verdicts) (purpose : Purpose) (t : Transaction)
    (taken : List Step) :
    (t.GrantedBy verdicts purpose taken ∧
        t.through verdicts purpose taken = (taken.foldl perform t, .ok ())) ∨
      ∃ before step after fault, taken = before ++ step :: after ∧
        t.GrantedBy verdicts purpose before ∧
        verdicts.refusal (.transact purpose (before.foldl perform t).applied step) = some fault ∧
        t.through verdicts purpose taken = (before.foldl perform t, .error fault) := by
  induction taken generalizing t with
  | nil => exact Or.inl ⟨grantedBy_nil, rfl⟩
  | cons step rest ih =>
    cases hverdict : verdicts.refusal (.transact purpose t.applied step) with
    | some fault =>
      refine Or.inr ⟨[], step, rest, fault, rfl, grantedBy_nil, hverdict, ?_⟩
      simp only [through, hverdict, List.foldl_nil]
    | none =>
      have hstep : t.through verdicts purpose (step :: rest) =
          (t.perform step).through verdicts purpose rest := by
        simp only [through, hverdict]
      rw [hstep]
      rcases ih (t.perform step) with
        ⟨hgranted, heq⟩ | ⟨before, refused, after, fault, rfl, hgranted, hfault, heq⟩
      · exact Or.inl ⟨hgranted.cons hverdict, heq⟩
      · exact Or.inr ⟨step :: before, refused, after, fault, rfl, hgranted.cons hverdict,
          hfault, heq⟩

/-! ## The steps of a write -/

/-- The steps of a write before its commit. -/
def preparations (mutations : List Mutation) : List Step :=
  .start :: .openTable :: mutations.map .apply

theorem steps_eq (mutations : List Mutation) :
    steps mutations = preparations mutations ++ [.commit] := rfl

theorem commit_notMem_preparations (mutations : List Mutation) :
    .commit ∉ preparations mutations := by
  simp [preparations]

theorem filterMap_preparations (mutations : List Mutation) :
    (preparations mutations).filterMap Step.mutation? = mutations := by
  show (mutations.map Step.apply).filterMap Step.mutation? = mutations
  rw [List.filterMap_map]
  exact List.filterMap_some

theorem forall_mem_steps {P : Step → Prop} {mutations : List Mutation} :
    (∀ step ∈ steps mutations, P step) ↔
      P .start ∧ P .openTable ∧ (∀ mutation ∈ mutations, P (.apply mutation)) ∧ P .commit := by
  simp [steps, or_imp, forall_and]

/-- Whatever comes before a step of a write is no commit. -/
theorem commit_notMem_of_steps {mutations : List Mutation} {before after : List Step} {step : Step}
    (h : steps mutations = before ++ step :: after) : .commit ∉ before := by
  rw [steps_eq] at h
  have hwhole : before <+: preparations mutations ++ [.commit] := h ▸ List.prefix_append _ _
  have hlength := congrArg List.length h
  simp only [List.length_append, List.length_cons, List.length_nil] at hlength
  have hleading : before <+: preparations mutations :=
    List.prefix_of_prefix_length_le hwhole (List.prefix_append _ _) (by omega)
  exact fun hmem => commit_notMem_preparations mutations (hleading.subset hmem)

end Transaction

/-! ## Engines that judge every step by itself -/

namespace Verdicts

open Transaction

variable {verdicts : Verdicts} {purpose : Purpose} {mutations : List Mutation}

theorem grants_of_forall (h : ∀ applied, ∀ step ∈ steps mutations,
    verdicts.refusal (.transact purpose applied step) = none) :
    verdicts.Grants purpose mutations := fun before step _ hsteps =>
  h _ step (hsteps ▸ List.mem_append_right before List.mem_cons_self)

/-- Whether a step of a write is granted does not depend on what has been applied before it. -/
def JudgesAlone (verdicts : Verdicts) : Prop :=
  ∀ applied step, verdicts.refusal (.transact .write applied step) =
    verdicts.refusal (.transact .write [] step)

theorem JudgesAlone.grants_iff (h : verdicts.JudgesAlone) (mutations : List Mutation) :
    verdicts.Grants .write mutations ↔
      ∀ step ∈ steps mutations, verdicts.refusal (.transact .write [] step) = none := by
  constructor
  · intro hgrants step hmem
    obtain ⟨before, after, hsteps⟩ := List.append_of_mem hmem
    rw [← h (before.filterMap Step.mutation?)]
    exact hgrants before step after hsteps
  · intro hgranted
    refine grants_of_forall fun applied step hmem => ?_
    rw [h]
    exact hgranted step hmem

/-- What such an engine grants together it grants one by one, and the other way around. -/
theorem JudgesAlone.grants_iff_single (h : verdicts.JudgesAlone) (hne : mutations ≠ []) :
    verdicts.Grants .write mutations ↔
      ∀ mutation ∈ mutations, verdicts.Grants .write [mutation] := by
  simp only [h.grants_iff, forall_mem_steps, List.forall_mem_singleton]
  constructor
  · rintro ⟨hstart, hopen, happly, hcommit⟩ mutation hmem
    exact ⟨hstart, hopen, happly mutation hmem, hcommit⟩
  · intro hsingle
    obtain ⟨mutation, hmem⟩ := List.exists_mem_of_ne_nil mutations hne
    obtain ⟨hstart, hopen, _, hcommit⟩ := hsingle mutation hmem
    exact ⟨hstart, hopen, fun other hother => (hsingle other hother).2.2.1, hcommit⟩

end Verdicts

namespace Engine

open Transaction

variable {verdicts : Verdicts} {purpose : Purpose} {mutations : List Mutation}

/-- All or nothing: a transaction whose steps are all granted leaves the fold of its mutations,
and one that is refused anywhere leaves the engine and the volume as they were. -/
theorem transact_cases (v : Volume) (engine : Engine) (purpose : Purpose)
    (mutations : List Mutation) (verdicts : Verdicts) :
    (verdicts.Grants purpose mutations ∧
        engine.transact v purpose mutations verdicts =
          (engine.store v (engine.latest.applyAll mutations),
            { engine with latest := engine.latest.applyAll mutations }, .ok ())) ∨
      ∃ fault, verdicts.Refuses purpose mutations fault ∧
        engine.transact v purpose mutations verdicts = (v, engine, .error (.ofFault fault)) := by
  rcases through_cases verdicts purpose (on v engine) (steps mutations) with
    ⟨hgranted, heq⟩ | ⟨before, step, after, fault, hsteps, hgranted, hfault, heq⟩
  · refine Or.inl ⟨grantedBy_on.mp hgranted, ?_⟩
    have hpending := (pending_on v engine).foldl (commit_notMem_preparations mutations)
    have hstaged := hpending.staged_eq
    rw [applied_on, filterMap_preparations] at hstaged
    simp only [transact, heq]
    rw [steps_eq, List.foldl_append]
    simp only [List.foldl_cons, List.foldl_nil, perform, hstaged, hpending.volume_eq,
      hpending.engine_eq]
  · have hpending := (pending_on v engine).foldl (commit_notMem_of_steps hsteps)
    rw [applied_on] at hfault
    refine Or.inr ⟨fault, ⟨before, step, after, hsteps, grantedBy_on.mp hgranted, hfault⟩, ?_⟩
    simp only [transact, heq, hpending.volume_eq, hpending.engine_eq]

theorem says_of_transact {v : Volume} {engine : Engine} {e : Error}
    (h : (engine.transact v purpose mutations verdicts).2.2 = .error e) : verdicts.Says e := by
  rcases transact_cases v engine purpose mutations verdicts with ⟨_, heq⟩ | ⟨fault, hrefused, heq⟩
  · rw [heq] at h
    simp at h
  · rw [heq] at h
    rw [← Except.error.inj h]
    exact hrefused.says

theorem transact_of_grants (h : verdicts.Grants purpose mutations) (v : Volume)
    (engine : Engine) :
    engine.transact v purpose mutations verdicts =
      (engine.store v (engine.latest.applyAll mutations),
        { engine with latest := engine.latest.applyAll mutations }, .ok ()) := by
  rcases transact_cases v engine purpose mutations verdicts with ⟨_, heq⟩ | ⟨fault, hrefuses, _⟩
  · exact heq
  · exact absurd hrefuses (h.not_refuses fault)

end Engine

/-- A transaction is granted as a whole or refused somewhere. -/
theorem Verdicts.grants_or_refuses (verdicts : Verdicts) (purpose : Transaction.Purpose)
    (mutations : List Mutation) :
    verdicts.Grants purpose mutations ∨ ∃ fault, verdicts.Refuses purpose mutations fault :=
  (Engine.transact_cases .empty .inMemory purpose mutations verdicts).imp And.left
    fun ⟨fault, hrefuses, _⟩ => ⟨fault, hrefuses⟩

end OrderedStore
