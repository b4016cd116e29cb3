import OrderedStore.Proofs.Gateway.Request
import OrderedStore.Proofs.Gateway.Simulation

/-!
# Runs of a gateway

A run is a list of turns: a host makes a call, somebody else changes the files, or the
engine comes to grant other things.  A desk attends a gateway if it matches it and is orderly,
and it goes on doing so through every turn, where it is kept from the calls and their replies
alone.
-/

set_option autoImplicit false

namespace OrderedStore

namespace Gateway

/-- What happens to a gateway. -/
inductive Turn where
  | call (call : Call)
  /-- The files become others, without the gateway doing anything. -/
  | outside (volume : Volume)
  /-- The engine comes to grant other things. -/
  | sway (verdicts : Verdicts)

/-- The gateway on top of another store. -/
def atop (g : Gateway) (s : Store) : Gateway := { g with store := s }

/-- The gateway on another file system. -/
def withVolume (g : Gateway) (v : Volume) : Gateway := g.atop { g.store with volume := v }

/-- The gateway on an engine that grants other things. -/
def withVerdicts (g : Gateway) (verdicts : Verdicts) : Gateway :=
  g.atop { g.store with verdicts }

/-- The gateway after a turn. -/
def after (g : Gateway) : Turn → Gateway
  | .call call => (g.serve call).1
  | .outside v => g.withVolume v
  | .sway verdicts => g.withVerdicts verdicts

/-- The gateway after a list of turns. -/
def run (g : Gateway) (turns : List Turn) : Gateway := turns.foldl after g

theorem reply_serve (g : Gateway) (call : Call) :
    (g.serve call).2 = (g.clearError.perform call).2 := by
  unfold serve
  generalize g.clearError.perform call = result
  obtain ⟨g', output, failure⟩ := result
  cases failure <;> rfl

end Gateway

/-- The words that the host can ask for after a reply. -/
def Reply.words (reply : Reply) : Option String :=
  reply.failure.map fun failure => withoutNul failure.text

/-- Serving a call is performing it, apart from the words of the failure. -/
theorem Gateway.serve_of_words {g : Gateway} {call : Call}
    (hwords : (g.clearError.perform call).1.lastError = none) :
    g.serve call = ({ (g.clearError.perform call).1 with
      lastError := (g.clearError.perform call).2.words }, (g.clearError.perform call).2) := by
  unfold serve Reply.words
  generalize g.clearError.perform call = result at hwords
  obtain ⟨g', output, failure⟩ := result
  cases failure with
  | none =>
    simp only at hwords
    simp only [Option.map_none, ← hwords]
  | some failure => rfl

namespace Desk

variable {d : Desk} {g : Gateway} {call : Call} {order : Order}

/-- The desk matches the gateway and is orderly. -/
structure Attends (d : Desk) (g : Gateway) : Prop where
  same : d.Matches g
  orderly : d.Orderly

theorem attends_ofVolume (v : Volume) (directives : Option String) :
    (ofStore (.ofVolume v) directives).Attends (.ofStore (.ofVolume v) directives) where
  same := matches_ofStore _ _
  orderly := orderly_ofStore (Store.steady_ofVolume v) (by intro b; cases b <;> rfl) directives

theorem Attends.perform (h : d.Attends g) (call : Call) :
    Follows d g call (d.order? call) (g.perform call) :=
  h.same.perform h.orderly.sole call

theorem Attends.withError (h : d.Attends g) (lastError : Option String) :
    d.Attends { g with lastError := lastError } :=
  ⟨h.same.withError lastError, h.orderly⟩

/-! ## Calls -/

theorem Follows.words_eq {order? : Option Order} {result : Gateway × Reply}
    (h : Follows d g call order? result) : result.1.lastError = g.lastError := by
  cases h with
  | carried _ _ hwords _ _ => exact hwords
  | refused _ _ => rfl
  | idle _ => rfl

theorem Attends.follows (h : d.Attends g) (call : Call) :
    ∃ result : Gateway × Reply, Follows d g.clearError call (d.order? call) result ∧
      g.serve call = ({ result.1 with lastError := result.2.words }, result.2) := by
  have hclear : d.Attends g.clearError := h.withError none
  have hfollows := hclear.perform call
  exact ⟨_, hfollows, Gateway.serve_of_words hfollows.words_eq⟩

/-- What the gateway does with a call that asks for something. -/
structure Accepts (d : Desk) (g : Gateway) (call : Call) (order : Order) : Prop where
  reply_eq : (g.serve call).2 = (d.carryOut (g.serve call).2.given order).2
  ends : (d.carryOut (g.serve call).2.given order).1.Matches (g.serve call).1
  fresh : d.Fresh order (g.serve call).2.given
  exhausted : ∀ kind, (g.serve call).2.failure = some (.handle (.exhausted kind)) →
    Registry.slotLimit ≤ (d.issued kind).length

theorem Attends.accepts (h : d.Attends g) (horder : d.order? call = some order) :
    d.Accepts g call order := by
  obtain ⟨result, hfollows, hserve⟩ := h.follows call
  rw [horder] at hfollows
  cases hfollows with
  | carried hreply hends hwords hfresh hexhausted =>
    refine ⟨?_, ?_, ?_, ?_⟩ <;> rw [hserve]
    · exact hreply
    · exact hends.withError _
    · exact hfresh
    · exact hexhausted

/-- A call that asks for nothing leaves everything as it is. -/
theorem Attends.refuses (h : d.Attends g) (horder : d.order? call = none) :
    (g.serve call).1 = { g with lastError := (g.serve call).2.words } ∧
      (call.isIdle = true ∧ (g.serve call).2 = ⟨.untouched, none⟩ ∨
        ∃ output failure, (g.serve call).2 = ⟨output, some failure⟩ ∧
          output.isBlank = true ∧ failure.isRefusal = true) := by
  obtain ⟨result, hfollows, hserve⟩ := h.follows call
  rw [horder] at hfollows
  rw [hserve]
  cases hfollows with
  | refused hblank hrefusal => exact ⟨rfl, Or.inr ⟨_, _, rfl, hblank, hrefusal⟩⟩
  | idle hidle => exact ⟨rfl, Or.inl ⟨hidle, rfl⟩⟩

theorem Attends.words_eq (h : d.Attends g) (call : Call) :
    (g.serve call).1.lastError = (g.serve call).2.words := by
  obtain ⟨result, _, hserve⟩ := h.follows call
  rw [hserve]

/-- A call keeps the desk in step with the gateway. -/
theorem Attends.serve (h : d.Attends g) (call : Call) :
    (d.note call (g.serve call).2).Attends (g.serve call).1 := by
  unfold Desk.note
  cases horder : d.order? call with
  | some order =>
    have haccepts := h.accepts horder
    -- What the order names is there, so the desk stays orderly whatever the order does.
    have hfinds := h.orderly.finds (asks_of_order? horder)
    exact ⟨haccepts.ends, h.orderly.carryOut hfinds haccepts.fresh⟩
  | none =>
    rw [(h.refuses horder).1]
    exact h.withError _

/-! ## Turns -/

/-- What happens to the store while its sessions and children stay keeps it in step, too. -/
theorem Attends.atop (h : d.Attends g) {s : Store} (hsteady : s.Steady)
    (hroster : s.roster = d.store.roster) : Attends { d with store := s } (g.atop s) where
  same := ⟨rfl, h.same.databases, h.same.iterators, h.same.snapshots, h.same.batches,
    h.same.directives, h.same.listening⟩
  orderly := h.orderly.withStore hsteady (fun id => congrArg (Roster.isOpen · id) hroster)
    fun b => congrArg (Roster.owner? · b) hroster

theorem Attends.outside (h : d.Attends g) (v : Volume) :
    Attends { d with store := { d.store with volume := v } } (g.withVolume v) := by
  rw [Gateway.withVolume, ← h.same.store]
  exact h.atop (h.orderly.steady.withVolume v) rfl

theorem Attends.sway (h : d.Attends g) (verdicts : Verdicts) :
    Attends { d with store := { d.store with verdicts } } (g.withVerdicts verdicts) := by
  rw [Gateway.withVerdicts, ← h.same.store]
  exact h.atop (h.orderly.steady.withVerdicts verdicts) rfl

theorem Attends.after (h : d.Attends g) (turn : Gateway.Turn) :
    ∃ d' : Desk, d'.Attends (g.after turn) := by
  cases turn with
  | call call => exact ⟨_, h.serve call⟩
  | outside v => exact ⟨_, h.outside v⟩
  | sway verdicts => exact ⟨_, h.sway verdicts⟩

/-- After every run there is a desk that attends the gateway. -/
theorem attends_run (v : Volume) (directives : Option String) (turns : List Gateway.Turn) :
    ∃ d : Desk, d.Attends ((Gateway.ofStore (.ofVolume v) directives).run turns) := by
  -- By induction on the turns, over all desks: every turn ends with another one.
  have hrun : ∀ (turns : List Gateway.Turn) (d : Desk) (g : Gateway), d.Attends g →
      ∃ d' : Desk, d'.Attends (g.run turns) := by
    intro turns
    induction turns with
    | nil => exact fun d g h => ⟨d, h⟩
    | cons turn rest ih =>
      intro d g h
      obtain ⟨d', hd'⟩ := h.after turn
      exact ih d' _ hd'
  exact hrun turns _ _ (attends_ofVolume v directives)

end Desk

end OrderedStore
