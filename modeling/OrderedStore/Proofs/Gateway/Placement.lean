import OrderedStore.Proofs.Gateway.Routine

/-!
# What failed calls leave in their output places

A call writes to its output place at most twice: it may first put a value there that stands
for nothing, and it puts its result there as its last step.  In between it only looks things
up and asks the store (`NeverWrites`), and a last step that fails has not written
(`WritesLast`).  So a call that begins with the value for nothing leaves it there if it
fails, whatever was in the place before.

Every call with an output begins like this, apart from counting the operations of a batch.
That one looks its batch up first and so leaves the place as it was.
-/

set_option autoImplicit false

namespace OrderedStore

namespace Routine

variable {α β : Type} {m : Routine α}

/-! ## Steps and the output place -/

/-- The step does not write to the output place, whether it fails or not. -/
def NeverWrites (m : Routine α) : Prop :=
  ∀ frame, match m frame with
    | .ok _ next | .error _ next => next.output = frame.output

/-- If the step fails, it has not written to the output place. -/
def WritesLast (m : Routine α) : Prop :=
  ∀ frame, match m frame with
    | .ok _ _ => True
    | .error _ next => next.output = frame.output

/-- If the routine fails, this value is in the output place, whatever was there before. -/
def Resets (neutral : Output) (m : Routine α) : Prop :=
  ∀ frame, match m frame with
    | .ok _ _ => True
    | .error _ next => next.output = neutral

theorem NeverWrites.bind {k : α → Routine β} (hm : NeverWrites m)
    (hk : ∀ a, WritesLast (k a)) : WritesLast (m >>= k) := by
  intro frame
  have hframe := hm frame
  rw [bind_apply]
  cases hresult : m frame with
  | error code next =>
    rw [hresult] at hframe
    exact hframe
  | ok a next =>
    rw [hresult] at hframe
    have hnext := hk a next
    dsimp only
    cases hrest : k a next with
    | ok b last => trivial
    | error code last =>
      rw [hrest] at hnext
      exact hnext.trans hframe

theorem neverWrites_of_yields {found : Gateway → Except Failure α}
    (h : ∀ g, Yields m g (found g)) : NeverWrites m := by
  rintro ⟨g, output⟩
  rw [h g output]
  cases found g with
  | ok a => rfl
  | error failure => rfl

theorem neverWrites_clear : NeverWrites clear := fun _ => rfl

theorem neverWrites_look (registry : Gateway → Registry α) (t : Token) :
    NeverWrites (look registry t) :=
  neverWrites_of_yields fun _ => yields_look registry t

theorem neverWrites_borrow (argument : Argument) (slice : Slice) :
    NeverWrites (borrow argument slice) :=
  neverWrites_of_yields fun _ => yields_borrow argument slice

theorem neverWrites_borrowPath (path : PathArgument) : NeverWrites (borrowPath path) :=
  neverWrites_of_yields fun _ => yields_borrowPath path

theorem neverWrites_snapshotFor (database snapshot : Token) :
    NeverWrites (snapshotFor database snapshot) :=
  neverWrites_of_yields fun _ => yields_snapshotFor database snapshot

theorem neverWrites_onStore (operation : Store → Store × Except Error α) :
    NeverWrites (onStore operation) := by
  rintro ⟨g, output⟩
  rw [onStore_apply]
  cases (operation g.store).2 with
  | ok a => rfl
  | error e => rfl

theorem writesLast_emit (output : Output) : WritesLast (emit output) := fun _ => trivial

theorem writesLast_enroll (registry : Gateway → Registry α)
    (replace : Gateway → Registry α → Gateway) (drop : Store → Store) (thing : α) :
    WritesLast (enroll registry replace drop thing) := by
  rintro ⟨g, output⟩
  unfold enroll
  simp only [get_bind_apply]
  obtain ⟨all, given⟩ := (registry g).insert thing
  cases given with
  | ok t => trivial
  | error fault => rfl

/-- A routine that puts a value into its output place first leaves it there if it fails. -/
theorem resets_of_writesLast {neutral : Output} (h : WritesLast m) :
    Resets neutral (clear >>= fun _ => needPlace true >>= fun _ => emit neutral >>= fun _ => m) :=
  fun frame => h ⟨frame.gateway.clearError, neutral⟩

/-! ## Routines with an output place -/

theorem resets_openPath (path : PathArgument) (options : Option Options) :
    Resets Gateway.noToken (openPath path options true) :=
  resets_of_writesLast <| (neverWrites_borrowPath path).bind fun _ =>
    (neverWrites_onStore _).bind fun _ => writesLast_enroll _ _ _ _

theorem resets_openMemory (options : Option Options) :
    Resets Gateway.noToken (openMemory options true) :=
  resets_of_writesLast <| (neverWrites_onStore _).bind fun _ => writesLast_enroll _ _ _ _

theorem resets_read (database snapshot : Token) (key : Slice) :
    Resets (.buffer none) (read database snapshot key true) :=
  resets_of_writesLast <| (neverWrites_look _ database).bind fun _ =>
    (neverWrites_snapshotFor database snapshot).bind fun _ =>
      (neverWrites_borrow .key key).bind fun _ =>
        (neverWrites_onStore _).bind fun _ => writesLast_emit _

theorem resets_property (database : Token) (name : Slice) :
    Resets (.buffer none) (property database name true) :=
  resets_of_writesLast <| (neverWrites_look _ database).bind fun _ =>
    (neverWrites_borrow .name name).bind fun _ =>
      (neverWrites_onStore _).bind fun _ => writesLast_emit _

theorem resets_iterate (database snapshot : Token) :
    Resets Gateway.noToken (iterate database snapshot true) :=
  resets_of_writesLast <| (neverWrites_look _ database).bind fun _ =>
    (neverWrites_snapshotFor database snapshot).bind fun _ =>
      (neverWrites_onStore _).bind fun _ => writesLast_enroll _ _ _ _

theorem resets_isValid (iterator : Token) : Resets (.flag false) (isValid iterator true) :=
  resets_of_writesLast <| (neverWrites_look _ iterator).bind fun _ _ => trivial

theorem resets_readEntry (iterator : Token) (part : Entry → Bytes) :
    Resets (.buffer none) (readEntry iterator true part) :=
  resets_of_writesLast <| (neverWrites_look _ iterator).bind fun _ _ => trivial

theorem resets_snapshot (database : Token) : Resets Gateway.noToken (snapshot database true) :=
  resets_of_writesLast <| (neverWrites_look _ database).bind fun _ =>
    (neverWrites_onStore _).bind fun _ => writesLast_enroll _ _ _ _

theorem resets_createBatch : Resets Gateway.noToken (createBatch true) :=
  resets_of_writesLast (writesLast_enroll _ _ _ _)

/-- Counting looks its batch up before it writes anything. -/
theorem writesLast_countBatch (batch : Token) : WritesLast (countBatch batch true) :=
  neverWrites_clear.bind fun _ => (neverWrites_look _ batch).bind fun _ => writesLast_emit _

end Routine

/-! ## Calls -/

namespace Call

/-- For a call with an output, whether there is a place for it and the value that stands
there for nothing. -/
def place? : Call → Option (Bool × Output)
  | .openPath _ _ place | .openMemory _ place | .iterate _ _ _ place | .snapshot _ place
  | .createBatch place => some (place, Gateway.noToken)
  | .get _ _ _ place | .property _ _ place | .key _ place | .value _ place =>
    some (place, .buffer none)
  | .isValid _ place => some (place, .flag false)
  | .countBatch _ place => some (place, .count 0)
  | _ => none

/-- Does the call count the operations of a batch? -/
def counts : Call → Bool
  | .countBatch _ _ => true
  | _ => false

end Call

namespace Routine

variable {call : Call} {neutral : Output}

/-- The routine of every call with an output place resets it, unless it counts. -/
theorem resets_ofCall (hplace : call.place? = some (true, neutral))
    (hcounts : call.counts = false) : Resets neutral (ofCall call) := by
  cases call with
  | openPath path options place =>
    cases hplace
    exact resets_openPath path options
  | openMemory options place =>
    cases hplace
    exact resets_openMemory options
  | get database snapshot key place =>
    cases hplace
    exact resets_read database snapshot key
  | property database name place =>
    cases hplace
    exact resets_property database name
  | iterate database fillCache snapshot place =>
    cases hplace
    exact resets_iterate database snapshot
  | isValid iterator place =>
    cases hplace
    exact resets_isValid iterator
  | key iterator place =>
    cases hplace
    exact resets_readEntry iterator _
  | value iterator place =>
    cases hplace
    exact resets_readEntry iterator _
  | snapshot database place =>
    cases hplace
    exact resets_snapshot database
  | createBatch place =>
    cases hplace
    exact resets_createBatch
  | countBatch batch place => cases hcounts
  | _ => cases hplace

theorem writesLast_ofCall (hplace : call.place? = some (true, neutral))
    (hcounts : call.counts = true) : WritesLast (ofCall call) := by
  cases call with
  | countBatch batch place =>
    cases hplace
    exact writesLast_countBatch batch
  | _ => cases hcounts

end Routine

namespace Gateway

/-- What a call returns and what it leaves in its output place, in which `before` has been
until then. -/
def enterOver (g : Gateway) (call : Call) (before : Output) : ResultCode × Output :=
  match Routine.ofCall call ⟨g, before⟩ with
  | .ok () frame => (.ok, frame.output)
  | .error code frame => (code, frame.output)

/-- Entering a routine is entering it over a place that has not been written to. -/
theorem enter_eq_enterOver (g : Gateway) (call : Call) :
    (g.enter call).2 = g.enterOver call .untouched := by
  unfold enter enterOver
  cases Routine.ofCall call ⟨g, .untouched⟩ with
  | ok a frame => rfl
  | error code frame => rfl

/-- In every state a call that fails leaves the value for nothing in its output place,
whatever was there before, unless it counts the operations of a batch: then it leaves what
was there. -/
theorem output_of_failed_call (g : Gateway) (call : Call) (before : Output) {neutral : Output}
    (hplace : call.place? = some (true, neutral)) (hfailed : (g.enterOver call before).1 ≠ .ok) :
    (g.enterOver call before).2 = if call.counts then before else neutral := by
  unfold enterOver at hfailed ⊢
  cases hresult : Routine.ofCall call ⟨g, before⟩ with
  | ok a frame =>
    rw [hresult] at hfailed
    exact absurd rfl hfailed
  | error code frame =>
    cases hcounts : call.counts with
    | true =>
      have hleft := Routine.writesLast_ofCall hplace hcounts ⟨g, before⟩
      rw [hresult] at hleft
      exact hleft
    | false =>
      have hleft := Routine.resets_ofCall hplace hcounts ⟨g, before⟩
      rw [hresult] at hleft
      exact hleft

/-- The theorem on an iterator that is read after it has been freed. -/
theorem output_of_failed_call_freed :
    let g := (((ofStore .empty none).enter (.openMemory none true)).1.enter
      (.iterate (.make .database 0 0) true 0 true)).1
    let freed := (g.enter (.freeIterator (.make .iterator 0 0))).1
    let call := Call.key (.make .iterator 0 0) true
    (freed.enterOver call (.buffer (some [107]))).1 = .invalidHandle ∧
      (freed.enterOver call (.buffer (some [107]))).2 = .buffer none := by
  intro g freed call
  have hcode : (freed.enterOver call (.buffer (some [107]))).1 = .invalidHandle := by
    decide +kernel
  exact ⟨hcode, output_of_failed_call freed call _ rfl (by rw [hcode]; decide)⟩

/-- A batch that is counted after it has been freed leaves a stale number in the place. -/
theorem exists_failed_count_unwritten :
    let g := ((ofStore .empty none).enter (.createBatch true)).1
    let freed := (g.enter (.freeBatch (.make .batch 0 0))).1
    let call := Call.countBatch (.make .batch 0 0) true
    call.place? = some (true, .count 0) ∧
      freed.enterOver call (.count 7) = (.invalidHandle, .count 7) ∧
      (.count 7 : Output) ≠ .count 0 := by
  intro g freed call
  refine ⟨rfl, ?_, by decide⟩
  decide +kernel

end Gateway

end OrderedStore
