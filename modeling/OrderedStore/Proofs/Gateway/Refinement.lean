import OrderedStore.Proofs.Gateway.Account
import OrderedStore.Proofs.Store.Atomic
import OrderedStore.Proofs.Store.Wording

/-!
# The gateway refines the store

`gateway_refines_store` says of every account, after anything that a host can do with a
gateway: a call whose tokens, snapshot and pointers are acceptable carries out exactly its
order on the things that its tokens stand for, and the host is told what has come of it;
every other call does nothing.  What the engine grants is no matter of the gateway's: it may
refuse any transaction and any opening, and then nothing of it is there.

From the mirror it follows what the host sees.  A read gives the map that the puts, deletes and
batches sent through the token of the database have made, an iterator goes through the map
that it was made over, and nothing that is done with other tokens shows in either.
-/

set_option autoImplicit false

namespace OrderedStore

namespace Account

variable {a : Account}

/-! ## Orders -/

/-- A gateway does what its host's desk says. -/
structure Obeys (a : Account) : Prop where
  store_eq : a.gateway.store = a.desk.store
  databases : a.desk.databases.Governs .database a.gateway.databases
  iterators : a.desk.iterators.Governs .iterator a.gateway.iterators
  snapshots : a.desk.snapshots.Governs .snapshot a.gateway.snapshots
  batches : a.desk.batches.Governs .batch a.gateway.batches
  /-- An acceptable call does what its order says, and the reply tells what has come of it. -/
  accepted : ∀ {call : Call} {order : Order}, a.desk.order? call = some order →
    a.reply call = (a.desk.carryOut (a.reply call).given order).2 ∧
      (a.call call).gateway.store = (a.desk.carryOut (a.reply call).given order).1.store
  /-- A token that is given has not been given before. -/
  given_new : ∀ {call : Call} {kind : HandleKind} {t : Token}, call.kind? = some kind →
    (a.reply call).given = some t → t ≠ 0 ∧ t ∉ a.desk.issued kind
  /-- There is no token only if a registry has given all it has. -/
  exhausted : ∀ {call : Call} {kind : HandleKind},
    (a.reply call).failure = some (.handle (.exhausted kind)) →
      Registry.slotLimit ≤ (a.desk.issued kind).length
  /-- Every other call leaves everything as it is, apart from the words of its failure. -/
  refused : ∀ {call : Call}, a.desk.order? call = none →
    (a.call call).gateway = { a.gateway with lastError := (a.reply call).words } ∧
      (call.isIdle = true ∧ a.reply call = ⟨.untouched, none⟩ ∨
        ∃ output failure, a.reply call = ⟨output, some failure⟩ ∧
          output.isBlank = true ∧ failure.isRefusal = true)
  words : ∀ call : Call, (a.call call).gateway.lastError = (a.reply call).words
  /-- Of an error of the store these are all its words. -/
  store_words : ∀ {call : Call} {e : Error}, (a.reply call).failure = some (.store e) →
    (a.reply call).words = some e.text

/-! ## Replies -/

section Replies

variable {t u owner : Token} {k : Keyspace} {key value : Slice} {contents : Bytes}

theorem Upholds.find_database (h : a.Upholds) (hk : a.mirror.contents t = some k) :
    ∃ id, a.desk.databases.find? t = some id := by
  obtain ⟨id, hheld⟩ := (h.mirrors.database h.attends.orderly).mp ⟨k, hk⟩
  exact ⟨id, h.attends.orderly.databases.find?_eq_some_iff.mpr hheld⟩

theorem Upholds.find_iterator (h : a.Upholds) {tour : Child Tour}
    (htour : a.mirror.tours t = some tour) :
    ∃ iterator, a.desk.iterators.find? t = some ⟨tour.owner, iterator⟩ := by
  obtain ⟨iterator, hheld⟩ := (h.mirrors.tours h.attends.orderly).mp ⟨tour.thing, htour⟩
  exact ⟨iterator, h.attends.orderly.iterators.valid.find?_eq_some_iff.mpr hheld⟩

theorem Upholds.find_batch (h : a.Upholds) {batch : Batch}
    (hbatch : a.mirror.batches t = some batch) : a.desk.batches.find? t = some batch :=
  (h.mirrors.batches t).symm.trans hbatch

/-- The reply to a call is what comes of its order. -/
theorem Upholds.reply_eq (h : a.Upholds) {call : Call} {order : Order}
    (hasks : a.desk.Asks call order) :
    a.reply call = (a.desk.carryOut (a.reply call).given order).2 :=
  (h.attends.accepts hasks.order?_eq).reply_eq

theorem Upholds.get (h : a.Upholds) (hview : a.mirror.viewFor t u = some k)
    (hkey : key.read .key = .ok contents) :
    a.reply (.get t u key true) = ⟨.buffer (k.get? contents), none⟩ := by
  have horderly := h.attends.orderly
  obtain ⟨id, through, hheld, hsnapshot⟩ := h.mirrors.readable horderly hview
  have hvalue := h.mirrors.get_eq horderly hview hheld hsnapshot contents
  have hfind := horderly.databases.find?_eq_some_iff.mpr hheld
  refine (h.reply_eq (.get hfind hsnapshot hkey)).trans ?_
  simp only [Desk.carryOut, Store.perform, hvalue, Desk.settle]

theorem mirror_of_ok {call : Call} (hidle : call.isIdle = false)
    (hok : a.reply call = ⟨.untouched, none⟩) :
    ∃ found given, (a.call call).mirror = a.mirror.done found call given := by
  rw [mirror_call, Mirror.Mirrors.note_of_ok hidle (congrArg Reply.failure hok)]
  exact ⟨_, _, rfl⟩

theorem mirror_of_error {call : Call} {output : Output} {failure : Failure}
    (herror : a.reply call = ⟨output, some failure⟩) : (a.call call).mirror = a.mirror := by
  rw [mirror_call, Mirror.Mirrors.note_of_error (congrArg Reply.failure herror)]

/-- What comes of mutations that are sent through the token of a database with this map: they
are all made if the engine grants all of them, and none is made if it does not. -/
structure Sends (a : Account) (call : Call) (t : Token) (k : Keyspace)
    (mutations : List Mutation) : Prop where
  granted : a.gateway.store.verdicts.Grants .write mutations →
    a.reply call = ⟨.untouched, none⟩ ∧
      (a.call call).mirror.contents t = some (k.applyAll mutations)
  refused : ∀ {fault : Fault}, a.gateway.store.verdicts.Refuses .write mutations fault →
    a.reply call = ⟨.untouched, some (.store (.ofFault fault))⟩ ∧
      (a.call call).mirror = a.mirror

/-- Of mutations that are sent through the token of a database the host is told whether they
are made. -/
theorem Upholds.commit (h : a.Upholds) {id : SessionId}
    (hfind : a.desk.databases.find? t = some id) {call : Call} {action : Store.Action}
    (hasks : a.desk.Asks call (.act t action)) (write : Write)
    (hperform : a.desk.store.perform action =
      ((a.desk.store.commit id write).1, .done (a.desk.store.commit id write).2)) :
    (a.gateway.store.verdicts.Grants .write write.mutations ∧
        a.reply call = ⟨.untouched, none⟩) ∨
      ∃ fault, a.gateway.store.verdicts.Refuses .write write.mutations fault ∧
        a.reply call = ⟨.untouched, some (.store (.ofFault fault))⟩ := by
  have horderly := h.attends.orderly
  have hheld := horderly.databases.find?_eq_some_iff.mp hfind
  rw [← h.attends.same.store]
  rcases h.mirrors.commit horderly hheld action write hperform (a.reply call).given with
    ⟨hgrants, hok, _⟩ | ⟨fault, hrefuses, herror, _⟩
  · exact Or.inl ⟨hgrants, (h.reply_eq hasks).trans hok⟩
  · exact Or.inr ⟨fault, hrefuses, (h.reply_eq hasks).trans herror⟩

theorem Upholds.sends (h : a.Upholds) (hk : a.mirror.contents t = some k) {id : SessionId}
    (hfind : a.desk.databases.find? t = some id) {call : Call} {action : Store.Action}
    (hasks : a.desk.Asks call (.act t action)) (write : Write)
    (hperform : a.desk.store.perform action =
      ((a.desk.store.commit id write).1, .done (a.desk.store.commit id write).2))
    (hdone : ∀ found given, a.mirror.done found call given = a.mirror.change t write.mutations) :
    a.Sends call t k write.mutations := by
  have hidle := h.attends.orderly.isIdle_eq_false hasks
  rcases h.commit hfind hasks write hperform with ⟨hgrants, hok⟩ | ⟨fault, hrefuses, herror⟩
  · obtain ⟨found, given, hmirror⟩ := mirror_of_ok hidle hok
    refine ⟨fun _ => ⟨hok, ?_⟩, fun hother => absurd hother (hgrants.not_refuses _)⟩
    rw [hmirror, hdone, Mirror.contents_change, hk]
    rfl
  · refine ⟨fun hgrants => absurd hrefuses (hgrants.not_refuses fault), fun hother => ?_⟩
    rw [hother.unique hrefuses]
    exact ⟨herror, mirror_of_error herror⟩

theorem Upholds.put (h : a.Upholds) (hk : a.mirror.contents t = some k) {v : Bytes}
    (hkey : key.read .key = .ok contents) (hvalue : value.read .value = .ok v) (sync : Bool) :
    a.Sends (.put t sync key value) t k [.put contents v] := by
  obtain ⟨id, hfind⟩ := h.find_database hk
  refine h.sends hk hfind (.put hfind hkey hvalue sync) ⟨[.put contents v], sync⟩ rfl
    fun found given => ?_
  rw [← Slice.contents_of_read hkey, ← Slice.contents_of_read hvalue]
  rfl

theorem Upholds.delete (h : a.Upholds) (hk : a.mirror.contents t = some k)
    (hkey : key.read .key = .ok contents) (sync : Bool) :
    a.Sends (.delete t sync key) t k [.delete contents] := by
  obtain ⟨id, hfind⟩ := h.find_database hk
  refine h.sends hk hfind (.delete hfind hkey sync) ⟨[.delete contents], sync⟩ rfl
    fun found given => ?_
  rw [← Slice.contents_of_read hkey]
  rfl

/-- A batch goes into the map as it stands. -/
theorem Upholds.write (h : a.Upholds) (hk : a.mirror.contents t = some k) {batch : Batch}
    (hbatch : a.mirror.batches u = some batch) (sync : Bool) :
    a.Sends (.write t sync u) t k batch.operations := by
  obtain ⟨id, hfind⟩ := h.find_database hk
  refine h.sends hk hfind (.write hfind (h.find_batch hbatch) sync) ⟨batch.operations, sync⟩ rfl
    fun found given => ?_
  rw [Mirror.done, hbatch]
  rfl

/-- What the host has of a thing that a call has built. -/
theorem mirror_of_handedOut {call : Call} {kind : HandleKind} (hidle : call.isIdle = false)
    (hreply : a.reply call = Desk.handedOut kind (a.reply call).given) {w : Token}
    (hgiven : (a.reply call).given = some w) :
    ∃ found, (a.call call).mirror = a.mirror.done found call (some w) := by
  refine ⟨(a.call call).gateway.found (a.reply call).given, ?_⟩
  rw [mirror_call, Mirror.Mirrors.note_of_handedOut hidle hreply, hgiven]
  rfl

/-- What comes of opening a database in memory: there is one with nothing in it if the engine
comes up, and the host is told why if it does not. -/
structure OpensMemory (a : Account) (options : Option Options) : Prop where
  opened : ∀ {engine : Engine}, Engine.openInMemory a.gateway.store.verdicts = .ok engine →
    a.reply (.openMemory options true) =
        Desk.handedOut .database (a.reply (.openMemory options true)).given ∧
      ∀ w, (a.reply (.openMemory options true)).given = some w →
        (a.call (.openMemory options true)).mirror.contents w = some .empty
  failed : ∀ {e : Error}, Engine.openInMemory a.gateway.store.verdicts = .error e →
    a.reply (.openMemory options true) = ⟨Gateway.noToken, some (.store e)⟩ ∧
      (a.call (.openMemory options true)).mirror = a.mirror

theorem Upholds.openMemory (h : a.Upholds) (options : Option Options) :
    a.OpensMemory options := by
  have haccepts := h.attends.accepts (Desk.Asks.openMemory (d := a.desk) options).order?_eq
  have houtcome := Store.outcome_openInMemory a.desk.store (options.getD {})
  rw [congrArg Store.verdicts h.attends.same.store] at houtcome
  rcases Store.openInMemory_spec a.desk.store (options.getD {}) with
    ⟨s, heq, _, hopened⟩ | ⟨s, e, heq, _, _⟩
  · rw [heq] at houtcome
    have hreply := haccepts.reply_eq
    simp only [Desk.carryOut, Store.perform, heq] at hreply
    replace hreply := hreply.trans (h.mirrors.opened h.attends.orderly hopened
      (fun w hw => haccepts.fresh .database w rfl hw) 0).1
    refine ⟨fun _ => ⟨hreply, fun w hw => ?_⟩, fun herror => ?_⟩
    · obtain ⟨found, hmirror⟩ := mirror_of_handedOut rfl hreply hw
      rw [hmirror, Mirror.done, Mirror.contents_hold]
    · rw [herror] at houtcome
      simp [Except.map] at houtcome
  · rw [heq] at houtcome
    have hreply := haccepts.reply_eq
    simp only [Desk.carryOut, Store.perform, heq] at hreply
    refine ⟨fun hok => ?_, fun herror => ?_⟩
    · rw [hok] at houtcome
      simp [Except.map] at houtcome
    · rw [herror] at houtcome
      obtain rfl := Except.error.inj houtcome
      exact ⟨hreply, mirror_of_error hreply⟩

theorem Upholds.snapshot (h : a.Upholds) (hk : a.mirror.contents t = some k) :
    a.reply (.snapshot t true) = Desk.handedOut .snapshot (a.reply (.snapshot t true)).given ∧
      ∀ w, (a.reply (.snapshot t true)).given = some w →
        (a.call (.snapshot t true)).mirror.pinned w = some ⟨t, k⟩ := by
  have horderly := h.attends.orderly
  obtain ⟨id, hfind⟩ := h.find_database hk
  have hheld := horderly.databases.find?_eq_some_iff.mp hfind
  have haccepts := h.attends.accepts (Desk.Asks.snapshot hfind).order?_eq
  have hreply := haccepts.reply_eq.trans
    (h.mirrors.snapshot horderly hheld fun w => haccepts.fresh .snapshot w rfl).1
  refine ⟨hreply, fun w hw => ?_⟩
  obtain ⟨found, hmirror⟩ := mirror_of_handedOut rfl hreply hw
  rw [hmirror, Mirror.done, Mirror.pinned_pin, hk]
  rfl

theorem Upholds.iterate (h : a.Upholds) (hview : a.mirror.viewFor t u = some k)
    (fillCache : Bool) :
    a.reply (.iterate t fillCache u true) =
        Desk.handedOut .iterator (a.reply (.iterate t fillCache u true)).given ∧
      ∀ w, (a.reply (.iterate t fillCache u true)).given = some w →
        (a.call (.iterate t fillCache u true)).mirror.tours w =
          some ⟨t, ⟨k, .unpositioned⟩⟩ := by
  have horderly := h.attends.orderly
  obtain ⟨id, through, hheld, hsnapshot⟩ := h.mirrors.readable horderly hview
  have hfind := horderly.databases.find?_eq_some_iff.mpr hheld
  have haccepts := h.attends.accepts (Desk.Asks.iterate hfind hsnapshot fillCache).order?_eq
  have hreply := haccepts.reply_eq.trans
    (h.mirrors.iterate horderly hheld hsnapshot fun w => haccepts.fresh .iterator w rfl).1
  refine ⟨hreply, fun w hw => ?_⟩
  obtain ⟨found, hmirror⟩ := mirror_of_handedOut rfl hreply hw
  rw [hmirror, Mirror.done, Mirror.tours_walk, hview]
  rfl

/-- The host is told where the tour of an iterator is. -/
structure ShowsTour (a : Account) (t : Token) (tour : Tour) : Prop where
  isValid : a.reply (.isValid t true) = ⟨.flag tour.current.isSome, none⟩
  key : a.reply (.key t true) = ⟨.buffer (tour.current.map fun entry => entry.1), none⟩
  value : a.reply (.value t true) = ⟨.buffer (tour.current.map fun entry => entry.2), none⟩
  status : a.reply (.status t) = ⟨.untouched, none⟩

theorem Upholds.showsTour (h : a.Upholds) {tour : Child Tour}
    (htour : a.mirror.tours t = some tour) : a.ShowsTour t tour.thing := by
  have horderly := h.attends.orderly
  obtain ⟨iterator, hfind⟩ := h.find_iterator htour
  have hheld := horderly.iterators.valid.find?_eq_some_iff.mp hfind
  obtain ⟨hentry, hstatus⟩ := h.mirrors.entry?_eq horderly hheld htour
  simp only at hentry hstatus
  constructor
  case isValid =>
    refine (h.reply_eq (.isValid hfind)).trans ?_
    rw [Desk.carryOut, hentry]
  case key =>
    refine (h.reply_eq (.key hfind)).trans ?_
    rw [Desk.carryOut, hentry]
  case value =>
    refine (h.reply_eq (.value hfind)).trans ?_
    rw [Desk.carryOut, hentry]
  case status =>
    refine (h.reply_eq (.status hfind)).trans ?_
    rw [Desk.carryOut, hstatus, h.sound t tour htour]
    rfl

theorem Upholds.move (h : a.Upholds) {tour : Child Tour} (htour : a.mirror.tours t = some tour)
    {call : Call} {move : Move} (hmove : call.move? = some (t, move)) :
    a.reply call = ⟨.untouched, none⟩ ∧
      (a.call call).mirror.tours t = some ⟨tour.owner, tour.thing.move move⟩ := by
  have horderly := h.attends.orderly
  obtain ⟨iterator, hfind⟩ := h.find_iterator htour
  have hheld := horderly.iterators.valid.find?_eq_some_iff.mp hfind
  have hasks := Desk.Asks.move hmove hfind
  have hok := (h.reply_eq hasks).trans (h.mirrors.move horderly hheld move _ _).1
  obtain ⟨found, given, hmirror⟩ := mirror_of_ok (horderly.isIdle_eq_false hasks) hok
  refine ⟨hok, ?_⟩
  rw [hmirror, Mirror.Mirrors.done_of_move? hmove, Mirror.advance, Mirror.tours_walk, htour]
  rfl

theorem Upholds.queue (h : a.Upholds) {batch : Batch} (hbatch : a.mirror.batches t = some batch)
    {call : Call} {mutation : Mutation} (hmutation : call.mutation? = some (t, mutation)) :
    a.reply call = ⟨.untouched, none⟩ ∧
      (a.call call).mirror.batches t = some (batch.push mutation) := by
  have hasks := Desk.Asks.queue hmutation (h.find_batch hbatch)
  have hok : a.reply call = ⟨.untouched, none⟩ := h.reply_eq hasks
  obtain ⟨found, given, hmirror⟩ := mirror_of_ok (h.attends.orderly.isIdle_eq_false hasks) hok
  refine ⟨hok, ?_⟩
  rw [hmirror, Mirror.Mirrors.done_of_mutation? hmutation, Mirror.queue, Mirror.batches_keep,
    hbatch]
  rfl

theorem Upholds.countBatch (h : a.Upholds) {batch : Batch}
    (hbatch : a.mirror.batches t = some batch) :
    a.reply (.countBatch t true) = ⟨.count batch.size, none⟩ :=
  h.reply_eq (.countBatch (h.find_batch hbatch))

end Replies

/-! ## Errors of the store -/

theorem failure_handedOut_ne (kind : HandleKind) (given : Option Token) (e : Error) :
    (Desk.handedOut kind given).failure ≠ some (.store e) := by
  cases given <;> simp [Desk.handedOut]

/-- Only opening, destroying, repairing and changing a database fail in the store, and the host
can read all of what it says. -/
theorem Upholds.plain_text (h : a.Upholds) {call : Call} {e : Error}
    (hfailure : (a.reply call).failure = some (.store e)) : Plain e.text := by
  have horderly := h.attends.orderly
  have hok : a.reply call = ⟨.untouched, none⟩ → Plain e.text := by
    intro hreply
    rw [hreply] at hfailure
    simp at hfailure
  have hhanded : ∀ {kind}, a.reply call = Desk.handedOut kind (a.reply call).given →
      Plain e.text := by
    intro kind hreply
    rw [hreply] at hfailure
    exact absurd hfailure (failure_handedOut_ne _ _ _)
  cases horder : a.desk.order? call with
  | none =>
    obtain ⟨_, ⟨_, hreply⟩ | ⟨output, failure, hreply, _, hrefusal⟩⟩ := h.attends.refuses horder
    · exact hok hreply
    · have hsome : (a.reply call).failure = some failure := congrArg Reply.failure hreply
      rw [hsome] at hfailure
      rw [Option.some.inj hfailure] at hrefusal
      simp [Failure.isRefusal] at hrefusal
  | some order =>
    -- Most orders cannot fail at all by what `Shows` says of them.  The texts of those that can
    -- are what the engine says, or are made of a path, which is plain because the host passed it.
    have hasks := Desk.asks_of_order? horder
    have hreply := h.reply_eq hasks
    rw [hreply] at hfailure
    cases hasks with
    | openPath hpath options =>
      exact Store.plainError_openAt (Gateway.plain_of_readPath hpath) _ e
        (Store.Answer.error?_opened.mp (Desk.error?_of_settle hfailure))
    | destroy hpath =>
      exact Store.plainError_destroy (Gateway.plain_of_readPath hpath) e
        (Store.Answer.error?_done.mp (Desk.error?_of_settle hfailure))
    | repair hpath =>
      exact Store.plainError_repair (Gateway.plain_of_readPath hpath) e
        (Store.Answer.error?_done.mp (Desk.error?_of_settle hfailure))
    | put | delete | write =>
      exact Store.plainError_commit _ _ e
        (Store.Answer.error?_done.mp (Desk.error?_of_settle hfailure))
    | openMemory options =>
      exact Store.plainError_openInMemory _ e
        (Store.Answer.error?_opened.mp (Desk.error?_of_settle hfailure))
    | get hfind hsnapshot hkey =>
      obtain ⟨k, hview⟩ := h.mirrors.viewable horderly
        (horderly.databases.find?_eq_some_iff.mp hfind) hsnapshot
      rw [← hreply, h.get hview hkey] at hfailure
      simp at hfailure
    | iterate hfind hsnapshot fillCache =>
      obtain ⟨k, hview⟩ := h.mirrors.viewable horderly
        (horderly.databases.find?_eq_some_iff.mp hfind) hsnapshot
      exact hhanded (h.iterate hview fillCache).1
    | snapshot hfind =>
      obtain ⟨k, hk⟩ := (h.mirrors.database horderly).mpr
        ⟨_, horderly.databases.find?_eq_some_iff.mp hfind⟩
      exact hhanded (h.snapshot hk).1
    | @move _ t move child hmove hfind =>
      obtain ⟨tour, htour⟩ := (h.mirrors.tours horderly).mpr
        ⟨_, horderly.iterators.valid.find?_eq_some_iff.mp hfind⟩
      exact hok (h.move htour hmove).1
    | status hfind =>
      obtain ⟨tour, htour⟩ := (h.mirrors.tours horderly).mpr
        ⟨_, horderly.iterators.valid.find?_eq_some_iff.mp hfind⟩
      exact hok (h.showsTour htour).status
    | createBatch =>
      generalize (a.reply (.createBatch true)).given = given at hfailure
      cases given <;> simp [Desk.carryOut, Desk.handOut] at hfailure
    | _ => simp [Desk.carryOut, Desk.settle, Store.perform] at hfailure

theorem Upholds.obeys (h : a.Upholds) : a.Obeys where
  store_eq := h.attends.same.store.symm
  databases := h.attends.same.databases.governs
  iterators := h.attends.same.iterators.governs
  snapshots := h.attends.same.snapshots.governs
  batches := h.attends.same.batches.governs
  accepted horder :=
    ⟨(h.attends.accepts horder).reply_eq, (h.attends.accepts horder).ends.store.symm⟩
  given_new := h.given_new
  exhausted {call kind} hfailure := by
    cases horder : a.desk.order? call with
    | some order => exact (h.attends.accepts horder).exhausted kind hfailure
    | none =>
      obtain ⟨_, ⟨_, hreply⟩ | ⟨output, failure, hreply, _, hrefusal⟩⟩ := h.attends.refuses horder
      · have hnone : (a.reply call).failure = none := congrArg Reply.failure hreply
        rw [hnone] at hfailure
        simp at hfailure
      · have hsome : (a.reply call).failure = some failure := congrArg Reply.failure hreply
        rw [hsome] at hfailure
        rw [Option.some.inj hfailure] at hrefusal
        simp [Failure.isRefusal] at hrefusal
  refused := h.attends.refuses
  words := h.attends.words_eq
  store_words {call e} hfailure := by
    rw [Reply.words, hfailure, Option.map_some, Failure.text,
      withoutNul_of_plain (h.plain_text hfailure)]

/-! ## What the host sees -/

/-- The host sees what its mirror has. -/
structure Shows (a : Account) : Prop where
  /-- The map of a token is at every moment the one that its session has. -/
  database_live : ∀ {t : Token} {k : Keyspace}, a.mirror.contents t = some k ↔
    ∃ id, a.gateway.databases.get t = .ok id ∧ a.gateway.store.roster.committed? id = some k
  snapshot_live : ∀ {t owner : Token}, (∃ k, a.mirror.pinned t = some ⟨owner, k⟩) ↔
    ∃ snapshot, a.gateway.snapshots.get t = .ok ⟨owner, snapshot⟩
  iterator_live : ∀ {t owner : Token}, (∃ tour, a.mirror.tours t = some ⟨owner, tour⟩) ↔
    ∃ iterator, a.gateway.iterators.get t = .ok ⟨owner, iterator⟩
  batch_live : ∀ {t : Token} {batch : Batch},
    a.mirror.batches t = some batch ↔ a.gateway.batches.get t = .ok batch
  openMemory : ∀ options, a.OpensMemory options
  get : ∀ {t u : Token} {k : Keyspace} {key : Slice} {contents : Bytes},
    a.mirror.viewFor t u = some k → key.read .key = .ok contents →
    a.reply (.get t u key true) = ⟨.buffer (k.get? contents), none⟩
  put : ∀ {t : Token} {k : Keyspace} {key value : Slice} {contents v : Bytes},
    a.mirror.contents t = some k → key.read .key = .ok contents → value.read .value = .ok v →
    ∀ sync, a.Sends (.put t sync key value) t k [.put contents v]
  delete : ∀ {t : Token} {k : Keyspace} {key : Slice} {contents : Bytes},
    a.mirror.contents t = some k → key.read .key = .ok contents →
    ∀ sync, a.Sends (.delete t sync key) t k [.delete contents]
  /-- A batch goes into the map as it stands at the time. -/
  write : ∀ {t u : Token} {k : Keyspace} {batch : Batch},
    a.mirror.contents t = some k → a.mirror.batches u = some batch →
    ∀ sync, a.Sends (.write t sync u) t k batch.operations
  /-- No write changes a batch. -/
  write_batches : ∀ t sync u, (a.call (.write t sync u)).gateway.batches = a.gateway.batches
  /-- A snapshot keeps the map as it is when it is taken. -/
  snapshot : ∀ {t : Token} {k : Keyspace}, a.mirror.contents t = some k →
    a.reply (.snapshot t true) = Desk.handedOut .snapshot (a.reply (.snapshot t true)).given ∧
      ∀ w, (a.reply (.snapshot t true)).given = some w →
        (a.call (.snapshot t true)).mirror.pinned w = some ⟨t, k⟩
  /-- An iterator is made over the map that a read would go to. -/
  iterate : ∀ {t u : Token} {k : Keyspace}, a.mirror.viewFor t u = some k → ∀ fillCache,
    a.reply (.iterate t fillCache u true) =
        Desk.handedOut .iterator (a.reply (.iterate t fillCache u true)).given ∧
      ∀ w, (a.reply (.iterate t fillCache u true)).given = some w →
        (a.call (.iterate t fillCache u true)).mirror.tours w =
          some ⟨t, ⟨k, .unpositioned⟩⟩
  iterator : ∀ {t : Token} {tour : Child Tour}, a.mirror.tours t = some tour →
    a.ShowsTour t tour.thing
  move : ∀ {t : Token} {tour : Child Tour}, a.mirror.tours t = some tour →
    ∀ {call : Call} {move : Move}, call.move? = some (t, move) →
      a.reply call = ⟨.untouched, none⟩ ∧
        (a.call call).mirror.tours t = some ⟨tour.owner, tour.thing.move move⟩
  queue : ∀ {t : Token} {batch : Batch}, a.mirror.batches t = some batch →
    ∀ {call : Call} {mutation : Mutation}, call.mutation? = some (t, mutation) →
      a.reply call = ⟨.untouched, none⟩ ∧
        (a.call call).mirror.batches t = some (batch.push mutation)
  countBatch : ∀ {t : Token} {batch : Batch}, a.mirror.batches t = some batch →
    a.reply (.countBatch t true) = ⟨.count batch.size, none⟩

theorem Upholds.shows (h : a.Upholds) : a.Shows where
  database_live {t k} := by
    rw [h.mirrors.contents_eq, Option.bind_eq_some_iff, h.attends.same.store]
    refine exists_congr fun id => and_congr ?_ Iff.rfl
    rw [h.attends.orderly.databases.find?_eq_some_iff, h.attends.same.databases.governs.get_iff]
  snapshot_live {t owner} := by
    rw [h.mirrors.pinned h.attends.orderly]
    exact exists_congr fun snapshot => h.attends.same.snapshots.governs.get_iff.symm
  iterator_live {t owner} := by
    rw [h.mirrors.tours h.attends.orderly]
    exact exists_congr fun iterator => h.attends.same.iterators.governs.get_iff.symm
  batch_live {t batch} := by
    rw [h.mirrors.batches, h.attends.orderly.batches.find?_eq_some_iff,
      h.attends.same.batches.governs.get_iff]
  openMemory := h.openMemory
  get := h.get
  put hk hkey hvalue := h.put hk hkey hvalue
  delete hk hkey := h.delete hk hkey
  write hk hbatch := h.write hk hbatch
  write_batches := Gateway.batches_write a.gateway
  snapshot := h.snapshot
  iterate := h.iterate
  iterator := h.showsTour
  move htour _ _ hmove := h.move htour hmove
  queue hbatch _ _ hmutation := h.queue hbatch hmutation
  countBatch := h.countBatch

/-! ## What others do -/

/-- What a host sees through its tokens does not depend on what is done with others. -/
structure Shields (a : Account) : Prop where
  /-- Nothing but changes of a database through its own token shows in reads of it. -/
  get : ∀ {t : Token} {k : Keyspace} {key : Slice} {contents : Bytes},
    a.mirror.contents t = some k → key.read .key = .ok contents →
    ∀ steps, (∀ call, .call call ∈ steps → call.target? ≠ some t) →
      (a.run steps).reply (.get t 0 key true) = a.reply (.get t 0 key true)
  /-- Nothing at all shows in reads through a snapshot while it can be used. -/
  getThrough : ∀ {t u : Token} {k : Keyspace} {key : Slice} {contents : Bytes}, u ≠ 0 →
    a.mirror.viewFor t u = some k → key.read .key = .ok contents →
    ∀ steps, (∀ call, .call call ∈ steps → call.released? ≠ some t ∧ call.released? ≠ some u) →
      (a.run steps).reply (.get t u key true) = a.reply (.get t u key true)
  /-- An iterator stays where it is until it is moved, and goes on from there. -/
  iterator : ∀ {t : Token} {tour : Child Tour}, a.mirror.tours t = some tour →
    ∀ steps, (∀ call, .call call ∈ steps →
        call.target? ≠ some t ∧ call.released? ≠ some tour.owner) →
      (a.run steps).mirror.tours t = some tour ∧ (a.run steps).ShowsTour t tour.thing
  /-- A batch changes through its own token only. -/
  batch : ∀ {t : Token} {batch : Batch}, a.mirror.batches t = some batch →
    ∀ steps, (∀ call, .call call ∈ steps → call.target? ≠ some t) →
      (a.run steps).gateway.batches.get t = .ok batch

theorem Upholds.shields (h : a.Upholds) : a.Shields where
  get {t k key contents} hk hkey steps hsteps := by
    have hlater : (a.run steps).mirror.contents t = some k :=
      h.kept_run (P := fun m => m.contents t = some k) hk fun b hb hkept call hmem =>
        hb.contents_call hkept (hsteps call hmem)
    have hview : ∀ {m : Mirror}, m.contents t = some k → m.viewFor t 0 = some k := fun hm => hm
    rw [(h.run steps).get (hview hlater) hkey, h.get (hview hk) hkey]
  getThrough {t u k key contents} hu hview hkey steps hsteps := by
    -- The view is the pinned map of the snapshot, so it is enough that the pin stays.
    have hpinned : a.mirror.pinned u = some ⟨t, k⟩ := by
      rw [Mirror.viewFor, if_neg hu] at hview
      obtain ⟨⟨owner, k'⟩, hpinned, hown⟩ := Option.bind_eq_some_iff.mp hview
      split at hown
      · rename_i howner
        obtain rfl := Option.some.inj hown
        exact howner ▸ hpinned
      · simp at hown
    have hlater : (a.run steps).mirror.pinned u = some ⟨t, k⟩ :=
      h.kept_run (P := fun m => m.pinned u = some ⟨t, k⟩) hpinned fun b hb hkept call hmem =>
        hb.pinned_call hkept (hsteps call hmem).2 (hsteps call hmem).1
    have hview' : (a.run steps).mirror.viewFor t u = some k := by
      rw [Mirror.viewFor, if_neg hu, hlater, Option.bind_some, if_pos rfl]
    rw [(h.run steps).get hview' hkey, h.get hview hkey]
  iterator {t tour} htour steps hsteps := by
    have hlater : (a.run steps).mirror.tours t = some tour :=
      h.kept_run (P := fun m => m.tours t = some tour) htour fun b hb hkept call hmem =>
        hb.tours_call hkept (hsteps call hmem).1 (hsteps call hmem).2
    exact ⟨hlater, (h.run steps).showsTour hlater⟩
  batch {t batch} hbatch steps hsteps := by
    have hlater : (a.run steps).mirror.batches t = some batch :=
      h.kept_run (P := fun m => m.batches t = some batch) hbatch fun b hb hkept call hmem =>
        hb.batches_call hkept (hsteps call hmem)
    exact (h.run steps).shows.batch_live.mp hlater

/-! ## Every account -/

/-- A gateway refines its store. -/
structure Refines (a : Account) : Prop where
  obeys : a.Obeys
  shows : a.Shows
  shields : a.Shields

/-- Whatever calls a host makes and whatever the engine grants, every acceptable call does what
it asks for on what its tokens stand for, every other one does nothing, and the host sees what
it has done itself through each token and nothing else. -/
theorem gateway_refines_store {v : Volume} (h : v.WellFormed) (directives : Option String)
    (steps : List Gateway.Step) : ((ofVolume v directives).run steps).Refines := by
  have hupholds := (upholds_ofVolume h directives).run steps
  exact ⟨hupholds.obeys, hupholds.shows, hupholds.shields⟩

/-- The theorem on an empty volume: a write after a snapshot, and one that the engine refuses. -/
theorem gateway_refines_store_empty :
    Volume.empty.WellFormed ∧
      ((ofVolume .empty none).run
        [.call (.openMemory none true),
          .call (.put (.make .database 0 0) true (.bytes [1]) (.bytes [2])),
          .call (.snapshot (.make .database 0 0) true),
          .call (.put (.make .database 0 0) true (.bytes [1]) (.bytes [3])),
          .sway (Store.limited 1),
          .call (.put (.make .database 0 0) true (.bytes [1]) (.bytes [4, 5]))]).Refines :=
  ⟨Volume.wellFormed_empty, gateway_refines_store Volume.wellFormed_empty none _⟩

example :
    let a := (ofVolume .empty none).run
      [.call (.openMemory none true),
        .call (.put (.make .database 0 0) true (.bytes [1]) (.bytes [2])),
        .call (.snapshot (.make .database 0 0) true),
        .call (.put (.make .database 0 0) true (.bytes [1]) (.bytes [3])),
        .sway (Store.limited 1)]
    let b := a.call (.put (.make .database 0 0) true (.bytes [1]) (.bytes [4, 5]))
    a.reply (.put (.make .database 0 0) true (.bytes [1]) (.bytes [4, 5])) =
        ⟨.untouched, some (.store (.ofFault (.valueTooLarge 2)))⟩ ∧
      b.reply (.get (.make .database 0 0) 0 (.bytes [1]) true) = ⟨.buffer (some [3]), none⟩ ∧
      b.reply (.get (.make .database 0 0) (.make .snapshot 0 0) (.bytes [1]) true) =
        ⟨.buffer (some [2]), none⟩ := by
  decide +kernel

end Account

end OrderedStore
