import OrderedStore.Gateway.Routine

/-!
# Routines come to the replies of calls

A routine records the text of a failure where it fails, and `Gateway.serve` records it at
the end, from the reply.  Both leave the same gateway, the same output and the same code.

`Yields` is about steps that look something up and change nothing if they find it;
`ComesTo` is about the rest of a routine, and has one lemma for each shape of calls.
-/

set_option autoImplicit false

namespace OrderedStore

/-! ## Texts without NULs -/

theorem mem_withoutNul {text : String} {c : Char} :
    c ∈ (withoutNul text).toList ↔ c ∈ text.toList ∧ c ≠ '\x00' := by
  simp [withoutNul]

theorem not_mem_withoutNul (text : String) : '\x00' ∉ (withoutNul text).toList := by
  intro h
  exact (mem_withoutNul.mp h).2 rfl

theorem terminated?_withoutNul (text : String) :
    terminated? (withoutNul text) = some (withoutNul text) :=
  if_neg (not_mem_withoutNul text)

namespace Routine

variable {α β : Type} {g : Gateway} {output : Output} {frame : Frame}

/-! ## Steps on a frame -/

theorem bind_apply (m : Routine α) (k : α → Routine β) (frame : Frame) :
    (m >>= k) frame = match m frame with
      | .ok a next => k a next
      | .error code next => .error code next := by
  show EStateM.bind m k frame = _
  unfold EStateM.bind
  cases m frame with
  | ok a next => rfl
  | error code next => rfl

theorem get_bind_apply (k : Frame → Routine α) (frame : Frame) :
    ((get : Routine Frame) >>= k) frame = k frame frame := rfl

theorem update_apply (change : Gateway → Gateway) (g : Gateway) (output : Output) :
    update change ⟨g, output⟩ = .ok () ⟨change g, output⟩ := rfl

/-- A step that fails has set the last error. -/
theorem fail_apply (code : ResultCode) (text : String) (g : Gateway) (output : Output) :
    (fail code text : Routine α) ⟨g, output⟩ = .error code ⟨g.setError text, output⟩ := by
  show EStateM.Result.error code
    (Frame.mk { g with lastError := terminated? (withoutNul text) } output) = _
  rw [terminated?_withoutNul]
  rfl

/-! ## Steps that look something up -/

/-- The step finds what is found, and otherwise fails with the code and the text of the
failure. -/
def Yields (m : Routine α) (g : Gateway) (found : Except Failure α) : Prop :=
  ∀ output, m ⟨g, output⟩ = match found with
    | .ok a => .ok a ⟨g, output⟩
    | .error failure => .error failure.code ⟨g.setError failure.text, output⟩

theorem yields_ok (a : α) : Yields (pure a) g (.ok a) := fun _ => rfl

theorem yields_error (failure : Failure) :
    Yields (fail failure.code failure.text : Routine α) g (.error failure) :=
  fun output => fail_apply _ _ g output

theorem yields_look (registry : Gateway → Registry α) (t : Token) :
    Yields (look registry t) g (Gateway.find (registry g) t) := by
  intro output
  unfold Gateway.find look
  simp only [get_bind_apply]
  cases (registry g).get t with
  | ok thing => rfl
  | error fault => exact fail_apply _ _ g output

theorem yields_borrow (argument : Argument) (slice : Slice) :
    Yields (borrow argument slice) g (slice.read argument) := by
  cases slice with
  | bytes contents => exact yields_ok contents
  | null length =>
    cases length with
    | zero => exact yields_ok []
    | succ n => exact yields_error (.nullBytes argument)

theorem yields_borrowPath (path : PathArgument) :
    Yields (borrowPath path) g (Gateway.readPath path) := by
  cases path with
  | none => exact yields_error .nullPath
  | some bytes =>
    unfold borrowPath Gateway.readPath
    dsimp only
    cases Utf8.text? (bytes.takeWhile (· ≠ 0)) with
    | some text => exact yields_ok text
    | none => exact yields_error .malformedPath

theorem yields_snapshotFor (database snapshot : Token) :
    Yields (snapshotFor database snapshot) g (g.snapshotFor database snapshot) := by
  unfold snapshotFor Gateway.snapshotFor
  split
  · exact yields_ok none
  · have hlook := yields_look (g := g) Gateway.snapshots snapshot
    intro output
    rw [bind_apply, hlook output]
    cases Gateway.find g.snapshots snapshot with
    | error failure => rfl
    | ok child =>
      dsimp only
      split
      · rfl
      · exact fail_apply _ _ g output

/-! ## Endings -/

/-- How a routine ends that comes to a reply. -/
def ending (result : Gateway × Reply) : EStateM.Result ResultCode Frame Unit :=
  match result.2.failure with
  | none => .ok () ⟨result.1, result.2.output⟩
  | some failure => .error failure.code ⟨result.1.setError failure.text, result.2.output⟩

/-- The rest of a routine comes to a reply. -/
def ComesTo (m : Routine Unit) (g : Gateway) (output : Output) (result : Gateway × Reply) :
    Prop :=
  m ⟨g, output⟩ = ending result

theorem comesTo_done : ComesTo (pure ()) g output (g, ⟨output, none⟩) := rfl

theorem comesTo_fail (failure : Failure) :
    ComesTo (fail failure.code failure.text) g output (g.refuse output failure) :=
  fail_apply _ _ g output

theorem comesTo_update (change : Gateway → Gateway) :
    ComesTo (update change) g output (change g, ⟨output, none⟩) := rfl

theorem comesTo_emit (next : Output) : ComesTo (emit next) g output (g, ⟨next, none⟩) := rfl

theorem comesTo_clear {m : Routine Unit} {result : Gateway × Reply}
    (h : ComesTo m g.clearError output result) :
    ComesTo (clear >>= fun _ => m) g output result := h

theorem comesTo_bind_emit {next : Output} {m : Routine Unit} {result : Gateway × Reply}
    (h : ComesTo m g next result) : ComesTo (emit next >>= fun _ => m) g output result := h

theorem comesTo_needing {place : Bool} {m : Routine Unit} {result : Gateway × Reply}
    (h : place = true → ComesTo m g .untouched result) :
    ComesTo (needPlace place >>= fun _ => m) g .untouched (g.needing place result) := by
  cases place with
  | true => exact h rfl
  | false =>
    show (needPlace false >>= fun _ => m) ⟨g, .untouched⟩ = ending (g.refuse .untouched .noOutput)
    rw [bind_apply, show needPlace false = fail .nullPointer "null pointer argument" from rfl,
      fail_apply]
    rfl

theorem comesTo_releasing {t : Token} {m : Routine Unit} {result : Gateway × Reply}
    (h : ComesTo m g .untouched result) :
    ComesTo (if t = 0 then pure () else m) g .untouched (g.releasing t result) := by
  unfold Gateway.releasing
  split
  · exact comesTo_done
  · exact h

theorem comesTo_found {m : Routine α} {found : Except Failure α} {k : α → Routine Unit}
    {go : α → Gateway × Reply} (hm : Yields m g found)
    (hk : ∀ a, ComesTo (k a) g output (go a)) :
    ComesTo (m >>= k) g output (g.withFound output found go) := by
  unfold ComesTo
  rw [bind_apply, hm output]
  cases found with
  | error failure => rfl
  | ok a => exact hk a

/-! ## Operations of the store -/

theorem onStore_apply (operation : Store → Store × Except Error α) (g : Gateway)
    (output : Output) :
    onStore operation ⟨g, output⟩ = match (operation g.store).2 with
      | .ok a => .ok a ⟨{ g with store := (operation g.store).1 }, output⟩
      | .error e => .error (.ofError e)
        ⟨{ g with store := (operation g.store).1 }.setError e.text, output⟩ := by
  unfold onStore
  rw [bind_apply]
  show (match (operation g.store).2 with
    | .ok a => (pure a : Routine α)
    | .error e => report e) ⟨{ g with store := (operation g.store).1 }, output⟩ = _
  cases (operation g.store).2 with
  | ok a => rfl
  | error e => exact fail_apply _ _ _ output

theorem comesTo_store {operation : Store → Store × Except Error α} {k : α → Routine Unit}
    {go : Gateway → α → Gateway × Reply}
    (hk : ∀ a, ComesTo (k a) { g with store := (operation g.store).1 } output
      (go { g with store := (operation g.store).1 } a)) :
    ComesTo (onStore operation >>= k) g output
      (g.withStore output (operation g.store) go) := by
  unfold ComesTo Gateway.withStore
  rw [bind_apply, onStore_apply]
  cases (operation g.store).2 with
  | error e => rfl
  | ok a => exact hk a

theorem comesTo_onStore (operation : Store → Store × Except Error Unit) :
    ComesTo (onStore operation) g .untouched (g.onStore (operation g.store)) := by
  unfold ComesTo Gateway.onStore Gateway.withStore
  rw [onStore_apply]
  cases (operation g.store).2 with
  | error e => rfl
  | ok a => rfl

/-! ## Registries -/

theorem comesTo_enroll {registry : Gateway → Registry α}
    {replace : Gateway → Registry α → Gateway} {drop : Store → Store} {thing : α}
    {result : Gateway × Reply}
    (hok : ∀ all t, (registry g).insert thing = (all, .ok t) →
      result = (replace g all, ⟨.token t, none⟩))
    (herror : ∀ all fault, (registry g).insert thing = (all, .error fault) →
      result = { replace g all with store := drop g.store }.refuse output (.handle fault)) :
    ComesTo (enroll registry replace drop thing) g output result := by
  unfold ComesTo enroll
  simp only [get_bind_apply]
  cases hinsert : (registry g).insert thing with
  | mk all given =>
    cases given with
    | ok t =>
      rw [hok all t hinsert]
      rfl
    | error fault =>
      rw [herror all fault hinsert]
      exact fail_apply _ _ _ output

theorem comesTo_enrollSession (id : SessionId) :
    ComesTo (enrollSession id) g Gateway.noToken (g.register id) := by
  apply comesTo_enroll
  · intro all t h
    simp only [Gateway.register, h]
  · intro all fault h
    simp only [Gateway.register, h]

/-- Taking a thing out finds what looking it up finds. -/
theorem take_apply (registry : Gateway → Registry α) (replace : Gateway → Registry α → Gateway)
    (t : Token) (g : Gateway) (output : Output) :
    take registry replace t ⟨g, output⟩ = match (registry g).get t with
      | .ok thing => .ok thing ⟨replace g ((registry g).remove t).1, output⟩
      | .error fault =>
        .error (.ofHandleFault fault) ⟨g.setError fault.text, output⟩ := by
  unfold take Registry.get
  simp only [get_bind_apply]
  unfold Registry.remove
  cases (registry g).locate t with
  | ok located => rfl
  | error fault => exact fail_apply _ _ g output

theorem comesTo_take {registry : Gateway → Registry α}
    {replace : Gateway → Registry α → Gateway} {t : Token} {k : α → Routine Unit}
    {go : α → Gateway × Reply}
    (hk : ∀ a, ComesTo (k a) (replace g ((registry g).remove t).1) output (go a)) :
    ComesTo (take registry replace t >>= k) g output
      (g.withFound output (Gateway.find (registry g) t) go) := by
  unfold ComesTo Gateway.find
  rw [bind_apply, take_apply]
  cases (registry g).get t with
  | error fault => rfl
  | ok a => exact hk a

/-! ## All routines -/

theorem withFound_bind {found : Except Failure α} {more : α → Except Failure β}
    {go : β → Gateway × Reply} :
    g.withFound output (found >>= more) go =
      g.withFound output found fun a => g.withFound output (more a) go := by
  cases found with
  | error failure => rfl
  | ok a => rfl

/-- Put and batch put read the key before the value. -/
theorem comesTo_readPut {key value : Slice} {k : Bytes → Bytes → Routine Unit}
    {go : Mutation → Gateway × Reply}
    (hk : ∀ key value, ComesTo (k key value) g output (go (.put key value))) :
    ComesTo (borrow .key key >>= fun key => borrow .value value >>= fun value => k key value)
      g output (g.withFound output (Gateway.readPut key value) go) := by
  unfold Gateway.readPut
  rw [withFound_bind]
  apply comesTo_found (yields_borrow .key key)
  intro key
  rw [withFound_bind]
  apply comesTo_found (yields_borrow .value value)
  intro value
  exact hk key value

theorem comesTo_readDelete {key : Slice} {k : Bytes → Routine Unit}
    {go : Mutation → Gateway × Reply} (hk : ∀ key, ComesTo (k key) g output (go (.delete key))) :
    ComesTo (borrow .key key >>= k) g output
      (g.withFound output (Gateway.readDelete key) go) := by
  unfold Gateway.readDelete
  rw [withFound_bind]
  apply comesTo_found (yields_borrow .key key)
  intro key
  exact hk key

theorem comesTo_openPath (path : PathArgument) (options : Option Options) (place : Bool) :
    ComesTo (openPath path options place) g .untouched
      (g.clearError.perform (.openPath path options place)) := by
  apply comesTo_clear
  apply comesTo_needing
  intro _
  apply comesTo_bind_emit
  apply comesTo_found (yields_borrowPath path)
  intro text
  apply comesTo_store
  intro id
  exact comesTo_enrollSession id

theorem comesTo_openMemory (options : Option Options) (place : Bool) :
    ComesTo (openMemory options place) g .untouched
      (g.clearError.perform (.openMemory options place)) := by
  apply comesTo_clear
  apply comesTo_needing
  intro _
  apply comesTo_bind_emit
  apply comesTo_store
  intro id
  exact comesTo_enrollSession id

theorem comesTo_close (database : Token) :
    ComesTo (close database) g .untouched (g.clearError.perform (.close database)) := by
  apply comesTo_clear
  apply comesTo_releasing
  unfold ComesTo
  simp only [get_bind_apply]
  unfold Gateway.close
  cases hremove : g.clearError.databases.remove database with
  | mk databases removed =>
    cases removed with
    | error fault => exact fail_apply _ _ _ _
    | ok id => simp only [update_apply, hremove]; rfl

theorem comesTo_read (database snapshot : Token) (key : Slice) (place : Bool) :
    ComesTo (read database snapshot key place) g .untouched
      (g.clearError.perform (.get database snapshot key place)) := by
  apply comesTo_clear
  apply comesTo_needing
  intro hplace
  subst hplace
  apply comesTo_bind_emit
  apply comesTo_found (yields_look Gateway.databases database)
  intro id
  apply comesTo_found (yields_snapshotFor database snapshot)
  intro snapshot
  apply comesTo_found (yields_borrow .key key)
  intro key
  apply comesTo_store
  intro value
  exact comesTo_emit (.buffer value)

theorem comesTo_property (database : Token) (name : Slice) (place : Bool) :
    ComesTo (property database name place) g .untouched
      (g.clearError.perform (.property database name place)) := by
  apply comesTo_clear
  apply comesTo_needing
  intro hplace
  subst hplace
  apply comesTo_bind_emit
  apply comesTo_found (yields_look Gateway.databases database)
  intro id
  apply comesTo_found (yields_borrow .name name)
  intro name
  unfold ComesTo
  rw [bind_apply, onStore_apply]
  exact comesTo_emit _

theorem comesTo_iterate (database snapshot : Token) (fillCache place : Bool) :
    ComesTo (iterate database snapshot place) g .untouched
      (g.clearError.perform (.iterate database fillCache snapshot place)) := by
  apply comesTo_clear
  apply comesTo_needing
  intro _
  apply comesTo_bind_emit
  apply comesTo_found (yields_look Gateway.databases database)
  intro id
  apply comesTo_found (yields_snapshotFor database snapshot)
  intro snapshot
  apply comesTo_store
  intro iterator
  apply comesTo_enroll
  · intro all t h
    simp only [Gateway.registerIterator, h]
  · intro all fault h
    simp only [Gateway.registerIterator, h]

theorem comesTo_position (iterator : Token) (m : Move) :
    ComesTo (position iterator m) g .untouched (g.clearError.position iterator m) := by
  apply comesTo_clear
  apply comesTo_found (yields_look Gateway.iterators iterator)
  intro child
  exact comesTo_onStore _

theorem comesTo_seek (iterator : Token) (key : Slice) :
    ComesTo (seek iterator key) g .untouched (g.clearError.perform (.seek iterator key)) := by
  apply comesTo_clear
  apply comesTo_found (yields_borrow .key key)
  intro key
  exact comesTo_position iterator (.seek key)

theorem comesTo_isValid (iterator : Token) (place : Bool) :
    ComesTo (isValid iterator place) g .untouched
      (g.clearError.perform (.isValid iterator place)) := by
  apply comesTo_clear
  apply comesTo_needing
  intro _
  apply comesTo_bind_emit
  apply comesTo_found (yields_look Gateway.iterators iterator)
  intro child
  exact comesTo_emit _

theorem comesTo_readEntry (iterator : Token) (place : Bool) (part : Entry → Bytes) :
    ComesTo (readEntry iterator place part) g .untouched
      (g.clearError.readEntry iterator place part) := by
  apply comesTo_clear
  apply comesTo_needing
  intro hplace
  subst hplace
  apply comesTo_bind_emit
  apply comesTo_found (yields_look Gateway.iterators iterator)
  intro child
  exact comesTo_emit _

theorem comesTo_freeIterator (iterator : Token) :
    ComesTo (freeIterator iterator) g .untouched
      (g.clearError.perform (.freeIterator iterator)) := by
  apply comesTo_clear
  apply comesTo_releasing
  apply comesTo_take
  intro child
  exact comesTo_update _

theorem comesTo_snapshot (database : Token) (place : Bool) :
    ComesTo (snapshot database place) g .untouched
      (g.clearError.perform (.snapshot database place)) := by
  apply comesTo_clear
  apply comesTo_needing
  intro _
  apply comesTo_bind_emit
  apply comesTo_found (yields_look Gateway.databases database)
  intro id
  apply comesTo_store
  intro snapshot
  apply comesTo_enroll
  · intro all t h
    simp only [Gateway.registerSnapshot, h]
  · intro all fault h
    simp only [Gateway.registerSnapshot, h]

theorem tryCatch_apply (m : Routine α) (handle : ResultCode → Routine α) (frame : Frame) :
    tryCatch m handle frame = match m frame with
      | .ok a next => .ok a next
      | .error code next => handle code next := by
  show EStateM.tryCatch m handle frame = _
  unfold EStateM.tryCatch
  cases m frame with
  | ok a next => rfl
  | error code next => rfl

theorem look_apply (registry : Gateway → Registry α) (t : Token) (g : Gateway)
    (output : Output) :
    look registry t ⟨g, output⟩ = match (registry g).get t with
      | .ok thing => .ok thing ⟨g, output⟩
      | .error fault => .error (.ofHandleFault fault) ⟨g.setError fault.text, output⟩ := by
  rw [yields_look registry t output]
  unfold Gateway.find
  cases (registry g).get t with
  | ok thing => rfl
  | error fault => rfl

/-- The code of a handle that could not be used is never the one for snapshots of another
database, so it passes the routine of releases as it is. -/
theorem ofHandleFault_ne (fault : HandleFault) :
    ResultCode.ofHandleFault fault ≠ .ownershipMismatch := by
  cases fault <;> exact ResultCode.noConfusion

/-- A snapshot of another database is refused with a code that has no text so far. -/
theorem withdraw_apply (database snapshot : Token) (g : Gateway) (output : Output) :
    withdraw database snapshot ⟨g, output⟩ = match g.snapshots.get snapshot with
      | .ok child =>
        if child.owner = database then
          .ok child ⟨{ g with snapshots := (g.snapshots.remove snapshot).1 }, output⟩
        else .error .ownershipMismatch ⟨g, output⟩
      | .error fault => .error (.ofHandleFault fault) ⟨g.setError fault.text, output⟩ := by
  unfold withdraw
  rw [bind_apply, look_apply]
  cases hget : g.snapshots.get snapshot with
  | error fault => rfl
  | ok child =>
    dsimp only
    by_cases howner : child.owner = database
    · rw [if_pos howner, if_neg (not_not_intro howner), take_apply, hget]
    · rw [if_neg howner, if_pos howner]
      rfl

theorem comesTo_releaseSnapshot (database snapshot : Token) :
    ComesTo (releaseSnapshot database snapshot) g .untouched
      (g.clearError.perform (.releaseSnapshot database snapshot)) := by
  apply comesTo_clear
  apply comesTo_releasing
  apply comesTo_found (yields_look Gateway.databases database)
  intro id
  unfold ComesTo Gateway.withFound Gateway.find
  rw [bind_apply, tryCatch_apply, withdraw_apply]
  cases hget : g.clearError.snapshots.get snapshot with
  | error fault =>
    dsimp only
    rw [if_neg (ofHandleFault_ne fault)]
    rfl
  | ok child =>
    dsimp only [Except.mapError]
    by_cases howner : child.owner = database
    · rw [if_pos howner, if_neg (not_not_intro howner)]
      rfl
    · rw [if_neg howner, if_pos howner]
      dsimp only
      rw [if_pos rfl, fail_apply]
      rfl

theorem insert_fst_of_error {r all : Registry α} {a : α} {fault : HandleFault}
    (h : r.insert a = (all, .error fault)) : all = r := by
  obtain ⟨kind, slots, free⟩ := r
  cases free with
  | cons index free => cases h
  | nil =>
    simp only [Registry.insert] at h
    split at h
    · cases h
    · cases h
      rfl

theorem comesTo_createBatch (place : Bool) :
    ComesTo (createBatch place) g .untouched (g.clearError.perform (.createBatch place)) := by
  apply comesTo_clear
  apply comesTo_needing
  intro _
  apply comesTo_bind_emit
  apply comesTo_enroll
  · intro all t h
    simp only [h]
  · intro all fault h
    simp only [h, insert_fst_of_error h, id_eq]

theorem comesTo_freeBatch (batch : Token) :
    ComesTo (freeBatch batch) g .untouched (g.clearError.perform (.freeBatch batch)) := by
  apply comesTo_clear
  apply comesTo_releasing
  apply comesTo_take
  intro _
  exact comesTo_done

theorem comesTo_installCallback (level : Level) (callback : Bool) :
    ComesTo (installCallback level callback) g .untouched
      (g.clearError.perform (.installCallback level callback)) := by
  apply comesTo_clear
  cases callback with
  | false => exact comesTo_fail .nullCallback
  | true =>
    unfold ComesTo
    show (if g.clearError.listening then _ else _ : Routine Unit) ⟨g.clearError, .untouched⟩ =
      ending (g.clearError.install level)
    unfold Gateway.install
    by_cases hlistening : g.clearError.listening = true
    · rw [if_pos hlistening, if_pos hlistening]
      exact comesTo_fail .callbackInstalled
    · rw [if_neg hlistening, if_neg hlistening]
      rw [update_apply, if_neg hlistening]
      rfl

/-- Every routine comes to what the call comes to as a whole. -/
theorem comesTo_perform (g : Gateway) (call : Call) :
    ComesTo (ofCall call) g .untouched (g.clearError.perform call) := by
  cases call with
  | openPath path options place => exact comesTo_openPath path options place
  | openMemory options place => exact comesTo_openMemory options place
  | close database => exact comesTo_close database
  | put database sync key value =>
    apply comesTo_clear
    apply comesTo_found (yields_look Gateway.databases database)
    intro id
    apply comesTo_readPut
    intro key value
    exact comesTo_onStore _
  | delete database sync key =>
    apply comesTo_clear
    apply comesTo_found (yields_look Gateway.databases database)
    intro id
    apply comesTo_readDelete
    intro key
    exact comesTo_onStore _
  | write database sync batch =>
    apply comesTo_clear
    apply comesTo_found (yields_look Gateway.databases database)
    intro id
    apply comesTo_found (yields_look Gateway.batches batch)
    intro batch
    exact comesTo_onStore _
  | get database snapshot key place => exact comesTo_read database snapshot key place
  | property database name place => exact comesTo_property database name place
  | destroy path =>
    apply comesTo_clear
    apply comesTo_found (yields_borrowPath path)
    intro text
    exact comesTo_onStore _
  | repair path =>
    apply comesTo_clear
    apply comesTo_found (yields_borrowPath path)
    intro text
    exact comesTo_onStore _
  | iterate database fillCache snapshot place =>
    exact comesTo_iterate database snapshot fillCache place
  | seek iterator key => exact comesTo_seek iterator key
  | first iterator => exact comesTo_position iterator .first
  | last iterator => exact comesTo_position iterator .last
  | next iterator => exact comesTo_position iterator .next
  | prev iterator => exact comesTo_position iterator .prev
  | isValid iterator place => exact comesTo_isValid iterator place
  | key iterator place => exact comesTo_readEntry iterator place _
  | value iterator place => exact comesTo_readEntry iterator place _
  | status iterator =>
    apply comesTo_clear
    apply comesTo_found (yields_look Gateway.iterators iterator)
    intro child
    exact comesTo_onStore fun s => (s, s.status child.thing)
  | freeIterator iterator => exact comesTo_freeIterator iterator
  | snapshot database place => exact comesTo_snapshot database place
  | releaseSnapshot database snapshot => exact comesTo_releaseSnapshot database snapshot
  | createBatch place => exact comesTo_createBatch place
  | batchPut batch key value =>
    apply comesTo_clear
    apply comesTo_found (yields_look Gateway.batches batch)
    intro _
    apply comesTo_readPut
    intro key value
    exact comesTo_update _
  | batchDelete batch key =>
    apply comesTo_clear
    apply comesTo_found (yields_look Gateway.batches batch)
    intro _
    apply comesTo_readDelete
    intro key
    exact comesTo_update _
  | clearBatch batch =>
    apply comesTo_clear
    apply comesTo_found (yields_look Gateway.batches batch)
    intro _
    exact comesTo_update _
  | countBatch batch place =>
    apply comesTo_clear
    apply comesTo_needing
    intro _
    apply comesTo_found (yields_look Gateway.batches batch)
    intro batch
    exact comesTo_emit _
  | freeBatch batch => exact comesTo_freeBatch batch
  | installCallback level callback => exact comesTo_installCallback level callback

end Routine

/-- Running the routine of a call leaves the gateway, the code and the output that serving
the call does. -/
theorem Gateway.enter_eq_serve (g : Gateway) (call : Call) :
    g.enter call = ((g.serve call).1, (g.serve call).2.code, (g.serve call).2.output) := by
  unfold Gateway.enter Gateway.serve Reply.code
  rw [Routine.comesTo_perform g call]
  generalize g.clearError.perform call = result
  obtain ⟨g', output, failure⟩ := result
  cases failure with
  | none => rfl
  | some failure => rfl

end OrderedStore
