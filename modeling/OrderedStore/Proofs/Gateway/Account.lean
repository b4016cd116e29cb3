import OrderedStore.Proofs.Gateway.Observation

/-!
# Accounts

An account is a gateway together with the desk and the mirror of its host, which are kept from
the calls and the replies alone.  The only thing that the mirror learns from elsewhere is what a
database has when it is opened.

`Upholds` is what every account comes to: the desk attends the gateway, and the mirror
reflects the desk.
-/

set_option autoImplicit false

namespace OrderedStore

namespace Gateway

/-- What a host does with a gateway, and what the engine behind it does. -/
inductive Step where
  | call (call : Call)
  /-- The words of the last failure are forgotten. -/
  | clearError
  /-- The engine comes to grant other things. -/
  | sway (verdicts : Verdicts)

/-- What the database of a token has, as it is found when it is opened. -/
def found (g : Gateway) (given : Option Token) : Keyspace :=
  (given.bind fun t =>
    (find g.databases t).toOption.bind g.store.roster.committed?).getD .empty

end Gateway

namespace Desk

variable {d : Desk} {g : Gateway}

theorem Matches.found_eq (h : d.Matches g) (given : Option Token) :
    d.found given = g.found given := by
  unfold Desk.found Gateway.found
  simp only [find_toOption h.databases, h.store]

end Desk

/-! ## Keeping an account -/

/-- A gateway with what its host has kept. -/
structure Account where
  gateway : Gateway
  desk : Desk
  mirror : Mirror

namespace Account

/-- The account of a gateway in front of a store with nothing open. -/
def ofVolume (v : Volume) (directives : Option String) : Account where
  gateway := .ofStore (.ofVolume v) directives
  desk := .ofStore (.ofVolume v) directives
  mirror := .empty

/-- Makes a call, and keeps the desk and the mirror by the reply. -/
def call (a : Account) (call : Call) : Account :=
  let (g, reply) := a.gateway.serve call
  ⟨g, a.desk.note call reply, a.mirror.note (g.found reply.given) call reply⟩

/-- What the host is told when it makes a call. -/
def reply (a : Account) (call : Call) : Reply := (a.gateway.serve call).2

/-- The account on an engine that grants other things. -/
def withVerdicts (a : Account) (verdicts : Verdicts) : Account where
  gateway := a.gateway.withVerdicts verdicts
  desk := { a.desk with store := { a.desk.store with verdicts } }
  mirror := a.mirror

/-- The account after a step. -/
def after (a : Account) : Gateway.Step → Account
  | .call call => a.call call
  | .clearError => { a with gateway := a.gateway.clearError }
  | .sway verdicts => a.withVerdicts verdicts

/-- The account after a list of steps. -/
def run (a : Account) (steps : List Gateway.Step) : Account := steps.foldl after a

theorem mirror_call (a : Account) (call : Call) :
    (a.call call).mirror = a.mirror.note ((a.call call).gateway.found (a.reply call).given) call
      (a.reply call) := rfl

/-- The host has kept what there is. -/
structure Upholds (a : Account) : Prop where
  attends : a.desk.Attends a.gateway
  mirrors : a.mirror.Mirrors a.desk
  sound : a.mirror.Sound

theorem upholds_ofVolume {v : Volume} (h : v.WellFormed) (directives : Option String) :
    (ofVolume v directives).Upholds where
  attends := Desk.attends_ofVolume v directives
  mirrors := Mirror.mirrors_ofVolume h directives
  sound := Mirror.sound_empty

variable {a : Account}

theorem Upholds.call (h : a.Upholds) (call : Call) : (a.call call).Upholds where
  attends := h.attends.serve call
  mirrors := by
    have hattends := h.attends.serve call
    show (a.mirror.note ((a.gateway.serve call).1.found (a.gateway.serve call).2.given) call
      (a.gateway.serve call).2).Mirrors (a.desk.note call (a.gateway.serve call).2)
    rw [← hattends.same.found_eq]
    cases horder : a.desk.order? call with
    | some order =>
      have haccepts := h.attends.accepts horder
      have hdesk : a.desk.note call (a.gateway.serve call).2 =
          (a.desk.carryOut (a.gateway.serve call).2.given order).1 := by
        rw [Desk.note, horder]
      rw [hdesk]
      exact h.mirrors.note h.attends.orderly (Desk.asks_of_order? horder) haccepts.reply_eq
        haccepts.fresh
    | none =>
      have hdesk : a.desk.note call (a.gateway.serve call).2 = a.desk := by
        rw [Desk.note, horder]
      rw [hdesk]
      obtain ⟨_, ⟨hidle, _⟩ | ⟨output, failure, hreply, _⟩⟩ := h.attends.refuses horder
      · rw [Mirror.note, hidle]
        simpa using h.mirrors
      · rw [Mirror.Mirrors.note_of_error (congrArg Reply.failure hreply)]
        exact h.mirrors
  sound := h.sound.note _ _ _

theorem Upholds.after (h : a.Upholds) (step : Gateway.Step) : (a.after step).Upholds := by
  cases step with
  | call call => exact h.call call
  | clearError => exact ⟨h.attends.withError none, h.mirrors, h.sound⟩
  | sway verdicts => exact ⟨h.attends.sway verdicts, h.mirrors.withVerdicts verdicts, h.sound⟩

/-- Whatever a host does, its account upholds. -/
theorem Upholds.run (h : a.Upholds) (steps : List Gateway.Step) : (a.run steps).Upholds := by
  induction steps generalizing a with
  | nil => exact h
  | cons step rest ih => exact ih (h.after step)

/-! ## Tokens -/

/-- A token that a call gives has never been handed out. -/
theorem Upholds.given_new (h : a.Upholds) {call : Call} {kind : HandleKind} {t : Token}
    (hkind : call.kind? = some kind) (hgiven : (a.gateway.serve call).2.given = some t) :
    t ≠ 0 ∧ t ∉ a.desk.issued kind := by
  cases horder : a.desk.order? call with
  | some order =>
    have hasks := Desk.asks_of_order? horder
    exact (h.attends.accepts horder).fresh kind t (hasks.kind?_eq.trans hkind) hgiven
  | none =>
    obtain ⟨_, ⟨_, hreply⟩ | ⟨output, failure, hreply, _⟩⟩ := h.attends.refuses horder
    · simp [hreply, Reply.given] at hgiven
    · simp [hreply, Reply.given] at hgiven

section Kept

variable {call : Call} {t : Token}

/-- A call changes the map of its own token only. -/
theorem Upholds.contents_call (h : a.Upholds) {k : Keyspace}
    (hk : a.mirror.contents t = some k) (htarget : call.target? ≠ some t) :
    (a.call call).mirror.contents t = some k := by
  obtain ⟨id, hheld⟩ := (h.mirrors.database h.attends.orderly).mp ⟨k, hk⟩
  have hissued := h.attends.orderly.databases.issued hheld
  rw [← hk]
  show (a.mirror.note _ call (a.reply call)).contents t = a.mirror.contents t
  unfold Mirror.note
  split
  · exact Mirror.contents_done htarget fun hkind hgiven => (h.given_new hkind hgiven).2 hissued
  · rfl

/-- A snapshot keeps its map until it is released or its database is closed. -/
theorem Upholds.pinned_call (h : a.Upholds) {view : Child Keyspace}
    (hview : a.mirror.pinned t = some view) (hreleased : call.released? ≠ some t)
    (howner : call.released? ≠ some view.owner) : (a.call call).mirror.pinned t = some view := by
  obtain ⟨snapshot, hheld⟩ := (h.mirrors.pinned h.attends.orderly).mp ⟨view.thing, hview⟩
  have hissued := h.attends.orderly.snapshots.valid.issued hheld
  rw [← hview]
  show (a.mirror.note _ call (a.reply call)).pinned t = a.mirror.pinned t
  unfold Mirror.note
  split
  · exact Mirror.pinned_done hview hreleased howner fun hkind hgiven =>
      (h.given_new hkind hgiven).2 hissued
  · rfl

/-- An iterator stays where it is until it is moved or its database is closed. -/
theorem Upholds.tours_call (h : a.Upholds) {tour : Child Tour}
    (htour : a.mirror.tours t = some tour) (htarget : call.target? ≠ some t)
    (howner : call.released? ≠ some tour.owner) : (a.call call).mirror.tours t = some tour := by
  obtain ⟨iterator, hheld⟩ := (h.mirrors.tours h.attends.orderly).mp ⟨tour.thing, htour⟩
  have hissued := h.attends.orderly.iterators.valid.issued hheld
  rw [← htour]
  show (a.mirror.note _ call (a.reply call)).tours t = a.mirror.tours t
  unfold Mirror.note
  split
  · exact Mirror.tours_done htour htarget howner fun hkind hgiven =>
      (h.given_new hkind hgiven).2 hissued
  · rfl

theorem Upholds.batches_call (h : a.Upholds) {batch : Batch}
    (hbatch : a.mirror.batches t = some batch) (htarget : call.target? ≠ some t) :
    (a.call call).mirror.batches t = some batch := by
  have hfind := (h.mirrors.batches t).symm.trans hbatch
  have hissued := h.attends.orderly.batches.issued
    (h.attends.orderly.batches.find?_eq_some_iff.mp hfind)
  rw [← hbatch]
  show (a.mirror.note _ call (a.reply call)).batches t = a.mirror.batches t
  unfold Mirror.note
  split
  · exact Mirror.batches_done htarget fun hkind hgiven => (h.given_new hkind hgiven).2 hissued
  · rfl

end Kept

/-- What no call of a run changes in the mirror stays as it is during the run. -/
theorem Upholds.kept_run (h : a.Upholds) {P : Mirror → Prop} (hP : P a.mirror)
    {steps : List Gateway.Step}
    (hcall : ∀ b : Account, b.Upholds → P b.mirror → ∀ call, .call call ∈ steps →
      P (b.call call).mirror) :
    P (a.run steps).mirror := by
  induction steps generalizing a with
  | nil => exact hP
  | cons step rest ih =>
    refine ih (h.after step) ?_ fun b hb hPb call hmem =>
      hcall b hb hPb call (List.mem_cons_of_mem _ hmem)
    cases step with
    | call call => exact hcall a h hP call List.mem_cons_self
    | clearError => exact hP
    | sway verdicts => exact hP

end Account

end OrderedStore
