import OrderedStore.Proofs.Gateway.LastError

/-!
# What becomes of a fault

A fault of the engine goes through three tables on its way to a host.  `Status.ofFault` sorts
it and keeps a diagnostic, `Error.ofStatus?` sorts it again, and `ResultCode.ofError` gives it
a number; statuses and errors put words of their own in front of the diagnostic.

`Status.Raises` says that the tables agree on a status and an error: on the category, the words
and the diagnostic, on what comes of it in every place that raises the error, and on what a host
is told.  `Fault.carried_through` is that they agree on every fault, whatever the engine says.
-/

set_option autoImplicit false

namespace OrderedStore

/-! ## Categories -/

namespace StatusCode

/-- The category of the errors that a category of statuses raises. -/
def kind? : StatusCode → Option ErrorKind
  | .ok => none
  | .notFound => some .notFound
  | .ioError => some .io
  | .corruption => some .corruption
  | .other => some .generic

/-- The code by which a host knows a category of statuses. -/
def resultCode : StatusCode → ResultCode
  | .ok => .ok
  | .notFound => .notFound
  | .ioError => .ioError
  | .corruption => .corruption
  | .other => .error

end StatusCode

/-! ## Statuses and their errors -/

/-- A status raises an error, and all who tell of it tell the same. -/
structure Status.Raises (status : Status) (e : Error) : Prop where
  error : Error.ofStatus? status = some e
  kind : status.code.kind? = some e.kind
  text : e.text = status.text
  /-- The diagnostic is kept word for word. -/
  diagnostic : status.message = some e.message
  raised : status.toExcept = .error e
  /-- On a read path the error is raised unless something was not found. -/
  read : ∀ {α : Type}, (status.absentOnNotFound : Except Error (Option α)) =
    if status.code = .notFound then .ok none else .error e
  /-- A routine that reports the error leaves with the code of the category and the words of
  the status, and changes nothing else. -/
  reported : ∀ {α : Type} (g : Gateway) (output : Output),
    (Routine.report e : Routine α) ⟨g, output⟩ =
      .error status.code.resultCode ⟨{ g with lastError := some (withoutNul status.text) }, output⟩
  /-- So does every call that fails with the error. -/
  answered : ∀ (g : Gateway) (call : Call), (g.serve call).2.failure = some (.store e) →
    (g.serve call).2.code = status.code.resultCode ∧
      (g.serve call).1.lastError = some (withoutNul status.text)

namespace Status

variable {code : StatusCode} {message : String} {e : Error}

/-- The error of a status with a diagnostic has its category, its words and the diagnostic. -/
theorem ofStatus?_spec (h : Error.ofStatus? ⟨code, some message⟩ = some e) :
    code.kind? = some e.kind ∧ e.text = text ⟨code, some message⟩ ∧ e.message = message ∧
      ResultCode.ofError e = code.resultCode := by
  cases code with
  | ok => exact nomatch h
  | _ =>
    obtain rfl := Option.some.inj h
    exact ⟨rfl, rfl, rfl, rfl⟩

theorem toExcept_of_error {status : Status} (h : Error.ofStatus? status = some e) :
    status.toExcept = .error e := by
  simp only [toExcept, h]

/-- Whoever raises the error of a status with a diagnostic tells the same of it. -/
theorem raises_of_error (h : Error.ofStatus? ⟨code, some message⟩ = some e) :
    Raises ⟨code, some message⟩ e := by
  obtain ⟨hkind, htext, hmessage, hcode⟩ := ofStatus?_spec h
  have hraised := toExcept_of_error h
  constructor
  case error => exact h
  case kind => exact hkind
  case text => exact htext
  case diagnostic => exact congrArg some hmessage.symm
  case raised => exact hraised
  case read =>
    intro α
    unfold absentOnNotFound
    split
    · rfl
    · rw [hraised]
      rfl
  case reported =>
    intro α g output
    rw [← hcode, ← htext]
    exact Routine.fail_apply _ _ g output
  case answered =>
    intro g call hfailure
    rw [Gateway.lastError_serve, Reply.code, hfailure, ← hcode, ← htext]
    exact ⟨rfl, rfl⟩

end Status

/-! ## Faults -/

namespace Fault

/-- No fault is taken for a success or loses its words. -/
theorem exists_diagnostic (fault : Fault) :
    ∃ code message, Status.ofFault fault = ⟨code, some message⟩ ∧ code ≠ .ok := by
  cases fault <;> exact ⟨_, _, rfl, StatusCode.noConfusion⟩

/-- Every fault comes out as a failure, and its status raises its error.  So all layers agree
on it, whatever kind it is and whatever it says. -/
theorem carried_through (fault : Fault) :
    (Status.ofFault fault).code ≠ .ok ∧ (Status.ofFault fault).Raises (Error.ofFault fault) := by
  obtain ⟨code, message, hstatus, hcode⟩ := exists_diagnostic fault
  have herror : Error.ofStatus? ⟨code, some message⟩ = some (Error.ofFault fault) := by
    unfold Error.ofFault
    rw [hstatus]
    cases code with
    | ok => exact absurd rfl hcode
    | _ => rfl
  rw [hstatus]
  exact ⟨hcode, Status.raises_of_error herror⟩

end Fault

end OrderedStore
