import OrderedStore.Proofs.Gateway.Routine

/-!
# The last error

What a host reads as the last error is about its latest call.  It is there exactly if the
call did not return `ok`, and then it is the text of the failure whose code was returned.
Requests that return no code leave it alone, apart from the one that clears it.
-/

set_option autoImplicit false

namespace OrderedStore

/-! ## Codes -/

theorem ResultCode.ofError_ne_ok (e : Error) : ResultCode.ofError e ≠ .ok := by
  cases e <;> exact ResultCode.noConfusion

theorem ResultCode.ofHandleFault_ne_ok (fault : HandleFault) :
    ResultCode.ofHandleFault fault ≠ .ok := by
  cases fault <;> exact ResultCode.noConfusion

/-- No failure has the code of success. -/
theorem Failure.code_ne_ok (failure : Failure) : failure.code ≠ .ok := by
  cases failure with
  | handle fault => exact ResultCode.ofHandleFault_ne_ok fault
  | store e => exact ResultCode.ofError_ne_ok e
  | _ => exact ResultCode.noConfusion

theorem Reply.code_eq_ok_iff (reply : Reply) : reply.code = .ok ↔ reply.failure = none := by
  unfold Reply.code
  cases reply.failure with
  | none => exact ⟨fun _ => rfl, fun _ => rfl⟩
  | some failure => exact ⟨fun h => absurd h failure.code_ne_ok, fun h => nomatch h⟩

/-! ## Steps that leave the last error alone -/

/-- The results of operations that do not touch the last error. -/
def Gateway.Quiet (g : Gateway) (result : Gateway × Reply) : Prop :=
  result.1.lastError = g.lastError

namespace Gateway

variable {α : Type} {g : Gateway} {output : Output}

theorem quiet_found {found : Except Failure α} {go : α → Gateway × Reply}
    (h : ∀ a, g.Quiet (go a)) : g.Quiet (g.withFound output found go) := by
  cases found with
  | error failure => rfl
  | ok a => exact h a

theorem quiet_store {result : Store × Except Error α} {go : Gateway → α → Gateway × Reply}
    (h : ∀ g' a, g'.lastError = g.lastError → g.Quiet (go g' a)) :
    g.Quiet (g.withStore output result go) := by
  obtain ⟨s, outcome⟩ := result
  cases outcome with
  | error e => rfl
  | ok a => exact h _ a rfl

theorem quiet_onStore (result : Store × Except Error Unit) : g.Quiet (g.onStore result) :=
  quiet_store fun _ _ h => h

theorem quiet_needing {place : Bool} {result : Gateway × Reply} (h : g.Quiet result) :
    g.Quiet (g.needing place result) := by
  cases place with
  | true => exact h
  | false => rfl

theorem quiet_releasing {t : Token} {result : Gateway × Reply} (h : g.Quiet result) :
    g.Quiet (g.releasing t result) := by
  unfold releasing
  split
  · rfl
  · exact h

theorem quiet_register (id : SessionId) : g.Quiet (g.register id) := by
  unfold register Quiet
  split
  · rfl
  · rfl

theorem quiet_registerIterator (owner : Token) (iterator : IteratorId) :
    g.Quiet (g.registerIterator owner iterator) := by
  unfold registerIterator Quiet
  split
  · rfl
  · rfl

theorem quiet_registerSnapshot (owner : Token) (snapshot : SnapshotId) :
    g.Quiet (g.registerSnapshot owner snapshot) := by
  unfold registerSnapshot Quiet
  split
  · rfl
  · rfl

theorem quiet_close (t : Token) : g.Quiet (g.close t) := by
  unfold close Quiet
  split
  · rfl
  · rfl

theorem quiet_change (t : Token) (sync : Bool) (mutation : Except Failure Mutation) :
    g.Quiet (g.change t sync mutation) :=
  quiet_found fun _ => quiet_found fun _ => quiet_onStore _

theorem quiet_position (t : Token) (m : Move) : g.Quiet (g.position t m) :=
  quiet_found fun _ => quiet_onStore _

theorem quiet_readEntry (t : Token) (place : Bool) (part : Entry → Bytes) :
    g.Quiet (g.readEntry t place part) :=
  quiet_needing (quiet_found fun _ => rfl)

theorem quiet_release (database snapshot : Token) : g.Quiet (g.release database snapshot) := by
  unfold release
  apply quiet_found
  intro _
  apply quiet_found
  intro child
  split
  · rfl
  · rfl

theorem quiet_queue (t : Token) (mutation : Except Failure Mutation) :
    g.Quiet (g.queue t mutation) :=
  quiet_found fun _ => quiet_found fun _ => rfl

theorem quiet_install (level : Level) : g.Quiet (g.install level) := by
  unfold install
  split
  · rfl
  · rfl

/-- What a call does besides keeping words leaves the last error as it is. -/
theorem quiet_perform (g : Gateway) (call : Call) : g.Quiet (g.perform call) := by
  cases call with
  | openPath path options place =>
    exact quiet_needing (quiet_found fun _ =>
      quiet_store fun g' id h => (quiet_register id).trans h)
  | openMemory options place =>
    exact quiet_needing (quiet_store fun g' id h => (quiet_register id).trans h)
  | close database => exact quiet_releasing (quiet_close database)
  | put database sync key value => exact quiet_change database sync _
  | delete database sync key => exact quiet_change database sync _
  | write database sync batch =>
    exact quiet_found fun _ => quiet_found fun _ => quiet_onStore _
  | get database snapshot key place =>
    exact quiet_needing (quiet_found fun _ => quiet_found fun _ => quiet_found fun _ =>
      quiet_store fun _ _ h => h)
  | property database name place =>
    exact quiet_needing (quiet_found fun _ => quiet_found fun _ => rfl)
  | destroy path => exact quiet_found fun _ => quiet_onStore _
  | repair path => exact quiet_found fun _ => quiet_onStore _
  | iterate database fillCache snapshot place =>
    exact quiet_needing (quiet_found fun _ => quiet_found fun _ =>
      quiet_store fun g' iterator h => (quiet_registerIterator database iterator).trans h)
  | seek iterator key => exact quiet_found fun key => quiet_position iterator (.seek key)
  | first iterator => exact quiet_position iterator .first
  | last iterator => exact quiet_position iterator .last
  | next iterator => exact quiet_position iterator .next
  | prev iterator => exact quiet_position iterator .prev
  | isValid iterator place => exact quiet_needing (quiet_found fun _ => rfl)
  | key iterator place => exact quiet_readEntry iterator place _
  | value iterator place => exact quiet_readEntry iterator place _
  | status iterator => exact quiet_found fun _ => quiet_onStore _
  | freeIterator iterator => exact quiet_releasing (quiet_found fun _ => rfl)
  | snapshot database place =>
    exact quiet_needing (quiet_found fun _ =>
      quiet_store fun g' snapshot h => (quiet_registerSnapshot database snapshot).trans h)
  | releaseSnapshot database snapshot =>
    exact quiet_releasing (quiet_release database snapshot)
  | createBatch place =>
    apply quiet_needing
    unfold Quiet
    split
    · rfl
    · rfl
  | batchPut batch key value => exact quiet_queue batch _
  | batchDelete batch key => exact quiet_queue batch _
  | clearBatch batch => exact quiet_found fun _ => rfl
  | countBatch batch place => exact quiet_needing (quiet_found fun _ => rfl)
  | freeBatch batch => exact quiet_releasing (quiet_found fun _ => rfl)
  | installCallback level callback =>
    cases callback with
    | true => exact quiet_install level
    | false => rfl

/-! ## Calls -/

/-- The last error after a call is the text of its failure. -/
theorem lastError_serve (g : Gateway) (call : Call) :
    (g.serve call).1.lastError =
      (g.serve call).2.failure.map fun failure => withoutNul failure.text := by
  have hquiet : (g.clearError.perform call).1.lastError = none :=
    quiet_perform g.clearError call
  unfold serve
  generalize g.clearError.perform call = result at hquiet
  obtain ⟨g', output, failure⟩ := result
  cases failure with
  | none => exact hquiet
  | some failure => rfl

theorem lastError_enter (g : Gateway) (call : Call) :
    (g.enter call).1.lastError =
      (g.serve call).2.failure.map fun failure => withoutNul failure.text := by
  rw [enter_eq_serve]
  exact lastError_serve g call

theorem code_enter (g : Gateway) (call : Call) :
    (g.enter call).2.1 = (g.serve call).2.code := by
  rw [enter_eq_serve]

end Gateway

/-! ## Runs of requests -/

/-- Does a request leave the last error to whoever asks for it next? -/
def Request.isIdle : Request → Bool
  | .freeBuffer _ | .defaultOptions | .lastError => true
  | .call _ | .clearError => false

namespace Gateway

/-- The gateway after a list of requests, and the responses to them. -/
def converse (g : Gateway) : List Request → Gateway × List Response
  | [] => (g, [])
  | request :: rest =>
    let (next, response) := g.respond request
    let (last, responses) := next.converse rest
    (last, response :: responses)

theorem converse_cons (g : Gateway) (request : Request) (rest : List Request) :
    g.converse (request :: rest) = (((g.respond request).1.converse rest).1,
      (g.respond request).2 :: ((g.respond request).1.converse rest).2) := rfl

theorem converse_append (g : Gateway) (earlier later : List Request) :
    g.converse (earlier ++ later) =
      (((g.converse earlier).1.converse later).1,
        (g.converse earlier).2 ++ ((g.converse earlier).1.converse later).2) := by
  induction earlier generalizing g with
  | nil => rfl
  | cons request earlier ih => rw [List.cons_append, converse_cons, converse_cons, ih]; rfl

/-- Idle requests change nothing. -/
theorem respond_of_isIdle (g : Gateway) {request : Request} (h : request.isIdle = true) :
    (g.respond request).1 = g := by
  cases request with
  | call call => exact nomatch h
  | clearError => exact nomatch h
  | freeBuffer buffer => rfl
  | defaultOptions => rfl
  | lastError => rfl

theorem converse_of_isIdle (g : Gateway) {idle : List Request}
    (h : ∀ request ∈ idle, request.isIdle = true) : (g.converse idle).1 = g := by
  induction idle with
  | nil => rfl
  | cons request idle ih =>
    show ((g.respond request).1.converse idle).1 = g
    rw [respond_of_isIdle g (h request (List.mem_cons_self ..))]
    exact ih fun other hother => h other (List.mem_cons_of_mem _ hother)

/-- The last error that a request leaves is there through idle requests. -/
theorem told_after (g : Gateway) (request : Request) {idle : List Request}
    (h : ∀ other ∈ idle, other.isIdle = true) :
    (g.converse (request :: idle ++ [.lastError])).2.getLast? =
      some (.text (g.respond request).1.lastError) := by
  have hidle : (g.converse (request :: idle)).1 = (g.respond request).1 := by
    rw [converse_cons]
    exact converse_of_isIdle _ h
  rw [converse_append, hidle, List.getLast?_append]
  rfl

/-- How a gateway keeps the last error. -/
structure KeepsProtocol (g : Gateway) : Prop where
  /-- After a call the last error is set exactly if the call did not return `ok`. -/
  set_iff : ∀ call, (g.enter call).1.lastError.isSome = true ↔ (g.enter call).2.1 ≠ .ok
  /-- It has no NULs. -/
  clean : ∀ call text, (g.enter call).1.lastError = some text → '\x00' ∉ text.toList
  /-- It is the text, without NULs, of the failure that has the code returned. -/
  owed : ∀ call text, (g.enter call).1.lastError = some text →
    ∃ failure, (g.serve call).2.failure = some failure ∧
      failure.code = (g.enter call).2.1 ∧ text = withoutNul failure.text
  /-- Requests without a code leave it, and with it everything else, as it is. -/
  idle : ∀ request, request.isIdle = true → (g.respond request).1 = g
  /-- Asking for it tells what a request has left, also after idle requests. -/
  told : ∀ request idle, (∀ other ∈ idle, other.isIdle = true) →
    (g.converse (request :: idle ++ [.lastError])).2.getLast? =
      some (.text (g.respond request).1.lastError)
  /-- Clearing unsets it and does nothing else. -/
  cleared : (g.respond .clearError).1 = { g with lastError := none }

theorem keepsProtocol (g : Gateway) : g.KeepsProtocol where
  set_iff := by
    intro call
    rw [lastError_enter, code_enter, Option.isSome_map, ne_eq, Reply.code_eq_ok_iff,
      Option.isSome_iff_ne_none]
  clean := by
    intro call text htext
    rw [lastError_enter] at htext
    obtain ⟨failure, _, rfl⟩ := Option.map_eq_some_iff.mp htext
    exact not_mem_withoutNul failure.text
  owed := by
    intro call text htext
    rw [lastError_enter] at htext
    obtain ⟨failure, hfailure, rfl⟩ := Option.map_eq_some_iff.mp htext
    refine ⟨failure, hfailure, ?_, rfl⟩
    rw [code_enter, Reply.code, hfailure]
  idle := fun _ h => g.respond_of_isIdle h
  told := fun request _ h => g.told_after request h
  cleared := rfl

/-- However a run of requests has gone so far, whatever the last error is by now: the
next request keeps to the protocol. -/
theorem last_error_protocol (g : Gateway) (earlier : List Request) :
    (g.converse earlier).1.KeepsProtocol :=
  keepsProtocol _

end Gateway

end OrderedStore
