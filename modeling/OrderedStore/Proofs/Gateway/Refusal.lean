import OrderedStore.Proofs.Gateway.Ownership

/-!
# Calls that are refused

Four codes find fault with what a call brings along: with a pointer, a token, an argument or
the owner of a snapshot.  `refused_call_keeps` says that a call with such a code has done
nothing, in every state that a gateway can come to: all tokens stand for what they stood for,
and the store with its files, sessions, snapshots and iterators is the one from before.

The codes are also those of errors of the store, which finds them after it has begun.  That
it never finds any is the point of the proof (`Vouches.order?_eq_none`): what a call asks for
has been looked at before the store is asked (`Orderly.rightful_carryOut`).
-/

set_option autoImplicit false

namespace OrderedStore

/-- Does the code find fault with what a call brings along? -/
def ResultCode.isRefusal : ResultCode → Bool
  | .nullPointer | .invalidHandle | .invalidArgument | .ownershipMismatch => true
  | _ => false

/-- An error of the store has no such code if the right thing was asked for. -/
theorem Store.Rightful.isRefusal_eq_false {e : Error} (h : Rightful e) :
    (ResultCode.ofError e).isRefusal = false := by
  cases e with
  | snapshotOwnership => exact absurd rfl h.ne_ownership
  | invalidArgument message =>
    simp [Rightful, Error.isExternal, Error.kind, Error.isClosed] at h
  | _ => rfl

namespace Desk

variable {d : Desk} {g : Gateway} {r : Receipts} {call : Call} {order : Order} {failure : Failure}

/-- What goes wrong while an order is carried out goes wrong in the store, or there are no
tokens left. -/
theorem isRefusal_carryOut {given : Option Token}
    (h : (d.carryOut given order).2.failure = some failure) : failure.isRefusal = false := by
  have hsettle : ∀ {d : Desk} {owner : Token} {given : Option Token} {answer : Store.Answer},
      (d.settle owner given answer).2.failure = some failure → failure.isRefusal = false := by
    intro d owner given answer hfailure
    rcases failure_of_settle hfailure with ⟨e, _, rfl⟩ | ⟨kind, rfl⟩ <;> rfl
  cases order with
  | act owner action => exact @hsettle _ owner given (d.store.perform action).2 h
  | status iterator => exact hsettle h
  | createBatch =>
    cases given with
    | some t => simp [carryOut, handOut] at h
    | none => exact Option.some.inj h ▸ rfl
  | _ => simp [carryOut] at h

/-- A call with such a code has asked for nothing. -/
theorem Vouches.order?_eq_none (h : d.Vouches r g)
    (hcode : (g.serve call).2.code.isRefusal = true) : d.order? call = none := by
  cases horder : d.order? call with
  | none => rfl
  | some order =>
    have hreply := (h.attends.accepts horder).reply_eq
    unfold Reply.code at hcode
    cases hfailure : (g.serve call).2.failure with
    | none => simp [hfailure, ResultCode.isRefusal] at hcode
    | some failure =>
      rw [hfailure] at hcode
      rw [hreply] at hfailure
      have hcarried := isRefusal_carryOut hfailure
      cases failure with
      | store e =>
        have hrightful := h.attends.orderly.rightful_carryOut h.retains (asks_of_order? horder) _
          hfailure
        exact absurd hcode (by simp [Failure.code, hrightful.isRefusal_eq_false])
      | handle fault =>
        cases fault with
        | exhausted kind =>
          simp [Failure.code, ResultCode.ofHandleFault, ResultCode.isRefusal] at hcode
        | _ => simp [Failure.isRefusal] at hcarried
      | _ => simp [Failure.isRefusal] at hcarried

end Desk

namespace Gateway

/-- Keeping receipts does not change the run. -/
theorem keepAllReceipts_fst (g : Gateway) (r : Receipts) (turns : List Turn) :
    (keepAllReceipts (g, r) turns).1 = g.run turns := by
  induction turns generalizing g r with
  | nil => rfl
  | cons turn rest ih => cases turn <;> exact ih _ _

/-- In every state that a gateway comes to, over any files and through any calls, a call that
is refused changes nothing but the words of the last failure.  All that it gives to the host
is a null value. -/
theorem refused_call_keeps (v : Volume) (directives : Option String) (turns : List Turn)
    (call : Call)
    (h : (((ofStore (.ofVolume v) directives).run turns).serve call).2.code.isRefusal = true) :
    (((ofStore (.ofVolume v) directives).run turns).serve call).1 =
        { (ofStore (.ofVolume v) directives).run turns with
          lastError := (((ofStore (.ofVolume v) directives).run turns).serve call).2.words } ∧
      (((ofStore (.ofVolume v) directives).run turns).serve call).2.output.isBlank = true := by
  obtain ⟨d, hvouches⟩ := (Desk.vouches_ofVolume v directives).keepAllReceipts turns
  rw [keepAllReceipts_fst] at hvouches
  have hrefuses := hvouches.attends.refuses (hvouches.order?_eq_none h)
  refine ⟨hrefuses.1, ?_⟩
  obtain ⟨_, ⟨_, hreply⟩ | ⟨output, failure, hreply, hblank, _⟩⟩ := hrefuses
  · rw [hreply]
    rfl
  · rw [hreply]
    exact hblank

/-- The theorem on a read through a snapshot of another database. -/
theorem refused_call_keeps_foreign :
    let g := (ofStore (.ofVolume .empty) none).run
      [.call (.openMemory none true), .call (.openMemory none true),
        .call (.snapshot (.make .database 0 0) true)]
    let call := Call.get (.make .database 0 1) (.make .snapshot 0 0) (.bytes [97]) true
    (g.serve call).2.code = .ownershipMismatch ∧
      (g.serve call).1 = { g with lastError := some "snapshot is not owned by this database" } := by
  intro g call
  have hcode : (g.serve call).2.code = .ownershipMismatch := by decide +kernel
  have hwords : (g.serve call).2.words = some "snapshot is not owned by this database" := by
    decide +kernel
  have hkeeps := (refused_call_keeps .empty none _ call (by rw [hcode]; rfl)).1
  exact ⟨hcode, hkeeps.trans (by rw [hwords])⟩

end Gateway

end OrderedStore
