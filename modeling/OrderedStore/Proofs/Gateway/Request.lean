import OrderedStore.Proofs.Gateway.Orderly

/-!
# What calls ask for

`Desk.order?` looks things up one after the other.  `Asks` has one rule for each kind of
call, with everything that must have been found when an order comes out of it, so that a
proof about an accepted call begins with its rule.
-/

set_option autoImplicit false

namespace OrderedStore

/-- The bytes of a range; a range without address has none. -/
def Slice.contents : Slice → Bytes
  | .null _ => []
  | .bytes contents => contents

theorem Slice.contents_of_read {slice : Slice} {argument : Argument} {contents : Bytes}
    (h : slice.read argument = .ok contents) : slice.contents = contents := by
  unfold Slice.read at h
  split at h
  · exact Except.ok.inj h
  · simp at h
  · exact Except.ok.inj h

/-- A put that can be read puts the contents of its ranges. -/
theorem Gateway.eq_of_readPut {key value : Slice} {mutation : Mutation}
    (h : readPut key value = .ok mutation) : mutation = .put key.contents value.contents := by
  unfold readPut at h
  cases hkey : key.read .key with
  | error failure => simp [hkey, bind, Except.bind] at h
  | ok k =>
    cases hvalue : value.read .value with
    | error failure => simp [hkey, hvalue, bind, Except.bind] at h
    | ok v =>
      rw [Slice.contents_of_read hkey, Slice.contents_of_read hvalue]
      simpa [hkey, hvalue, bind, Except.bind, pure, Except.pure] using h.symm

/-- So does a delete. -/
theorem Gateway.eq_of_readDelete {key : Slice} {mutation : Mutation}
    (h : readDelete key = .ok mutation) : mutation = .delete key.contents := by
  unfold readDelete at h
  cases hkey : key.read .key with
  | error failure => simp [hkey, bind, Except.bind] at h
  | ok k =>
    rw [Slice.contents_of_read hkey]
    simpa [hkey, bind, Except.bind, pure, Except.pure] using h.symm

/-- The iterator that a call moves, and where to. -/
def Call.move? : Call → Option (Token × Move)
  | .seek t slice => (slice.read .key).toOption.map fun contents => (t, .seek contents)
  | .first t => some (t, .first)
  | .last t => some (t, .last)
  | .next t => some (t, .next)
  | .prev t => some (t, .prev)
  | _ => none

/-- The kind of thing that a call builds. -/
def Call.kind? : Call → Option HandleKind
  | .openPath .. | .openMemory .. => some .database
  | .iterate .. => some .iterator
  | .snapshot .. => some .snapshot
  | .createBatch _ => some .batch
  | _ => none

/-- The operation that a call puts into a batch. -/
def Call.mutation? : Call → Option (Token × Mutation)
  | .batchPut t k v => (Gateway.readPut k v).toOption.map fun mutation => (t, mutation)
  | .batchDelete t k => (Gateway.readDelete k).toOption.map fun mutation => (t, mutation)
  | _ => none

namespace Desk

/-- A call asks for an order, because of what its tokens stand for and its arguments say. -/
inductive Asks (d : Desk) : Call → Order → Prop where
  | openPath {path : PathArgument} {text : String} (hpath : Gateway.readPath path = .ok text)
    (options : Option Options) :
    Asks d (.openPath path options true) (.act 0 (.openAt text (options.getD {})))
  | openMemory (options : Option Options) :
    Asks d (.openMemory options true) (.act 0 (.openMemory (options.getD {})))
  | close {t : Token} {id : SessionId} (hfind : d.databases.find? t = some id) :
    Asks d (.close t) (.close t id)
  | put {t : Token} {id : SessionId} {key value : Slice} {k v : Bytes}
    (hfind : d.databases.find? t = some id) (hkey : key.read .key = .ok k)
    (hvalue : value.read .value = .ok v) (sync : Bool) :
    Asks d (.put t sync key value) (.act t (.put id k v sync))
  | delete {t : Token} {id : SessionId} {key : Slice} {k : Bytes}
    (hfind : d.databases.find? t = some id) (hkey : key.read .key = .ok k) (sync : Bool) :
    Asks d (.delete t sync key) (.act t (.delete id k sync))
  | write {t u : Token} {id : SessionId} {batch : Batch}
    (hfind : d.databases.find? t = some id) (hbatch : d.batches.find? u = some batch)
    (sync : Bool) : Asks d (.write t sync u) (.act t (.write id batch sync))
  | get {t u : Token} {id : SessionId} {through : Option SnapshotId} {key : Slice} {k : Bytes}
    (hfind : d.databases.find? t = some id) (hsnapshot : d.snapshotFor? t u = some through)
    (hkey : key.read .key = .ok k) : Asks d (.get t u key true) (.act t (.get id through k))
  | property {t : Token} {id : SessionId} {name : Slice} {n : Bytes}
    (hfind : d.databases.find? t = some id) (hname : name.read .name = .ok n) :
    Asks d (.property t name true) (.act t (.property id n))
  | destroy {path : PathArgument} {text : String} (hpath : Gateway.readPath path = .ok text) :
    Asks d (.destroy path) (.act 0 (.destroy text))
  | repair {path : PathArgument} {text : String} (hpath : Gateway.readPath path = .ok text) :
    Asks d (.repair path) (.act 0 (.repair text))
  | iterate {t u : Token} {id : SessionId} {through : Option SnapshotId}
    (hfind : d.databases.find? t = some id) (hsnapshot : d.snapshotFor? t u = some through)
    (fillCache : Bool) : Asks d (.iterate t fillCache u true) (.act t (.iterate id through))
  | move {call : Call} {t : Token} {m : Move} {child : Child IteratorId}
    (hmove : call.move? = some (t, m)) (hfind : d.iterators.find? t = some child) :
    Asks d call (.act child.owner (.move child.thing m))
  | isValid {t : Token} {child : Child IteratorId} (hfind : d.iterators.find? t = some child) :
    Asks d (.isValid t true) (.isValid child.thing)
  | key {t : Token} {child : Child IteratorId} (hfind : d.iterators.find? t = some child) :
    Asks d (.key t true) (.read child.thing (·.1))
  | value {t : Token} {child : Child IteratorId} (hfind : d.iterators.find? t = some child) :
    Asks d (.value t true) (.read child.thing (·.2))
  | status {t : Token} {child : Child IteratorId} (hfind : d.iterators.find? t = some child) :
    Asks d (.status t) (.status child.thing)
  | freeIterator {t : Token} {child : Child IteratorId}
    (hfind : d.iterators.find? t = some child) :
    Asks d (.freeIterator t) (.freeIterator t child.thing)
  | snapshot {t : Token} {id : SessionId} (hfind : d.databases.find? t = some id) :
    Asks d (.snapshot t true) (.act t (.snapshot id))
  | releaseSnapshot {t : Token} {child : Child SnapshotId} {id : SessionId}
    (howner : d.databases.find? child.owner = some id) (hfind : d.snapshots.find? t = some child) :
    Asks d (.releaseSnapshot child.owner t) (.freeSnapshot t child.thing)
  | createBatch : Asks d (.createBatch true) .createBatch
  | queue {call : Call} {t : Token} {mutation : Mutation} {batch : Batch}
    (hmutation : call.mutation? = some (t, mutation)) (hfind : d.batches.find? t = some batch) :
    Asks d call (.setBatch t (batch.push mutation))
  | clearBatch {t : Token} {batch : Batch} (hfind : d.batches.find? t = some batch) :
    Asks d (.clearBatch t) (.setBatch t .empty)
  | countBatch {t : Token} {batch : Batch} (hfind : d.batches.find? t = some batch) :
    Asks d (.countBatch t true) (.countBatch batch)
  | freeBatch {t : Token} {batch : Batch} (hfind : d.batches.find? t = some batch) :
    Asks d (.freeBatch t) (.freeBatch t)
  | installCallback (level : Level) (hlistening : d.listening = false) :
    Asks d (.installCallback level true) (.listen (Gateway.chosenFilter d.directives level))

variable {d : Desk} {call : Call} {order : Order}

theorem ok_of_toOption {ε α : Type} {outcome : Except ε α} {a : α}
    (h : outcome.toOption = some a) : outcome = .ok a := by
  cases outcome with
  | ok b => exact congrArg Except.ok (Option.some.inj h)
  | error e => exact absurd h (by simp [Except.toOption])

theorem toOption_of_ok {ε α : Type} {outcome : Except ε α} {a : α} (h : outcome = .ok a) :
    outcome.toOption = some a := by
  rw [h]
  rfl

theorem asks_of_moving? {t : Token} {m : Move} (hmove : call.move? = some (t, m))
    (horder : d.moving? t m = some order) : d.Asks call order := by
  obtain ⟨child, hfind, hnext⟩ := Option.bind_eq_some_iff.mp horder
  obtain rfl := Option.some.inj hnext
  exact .move hmove hfind

theorem asks_of_queueing? {t : Token} {mutation : Except Failure Mutation}
    (hmutation : call.mutation? = mutation.toOption.map fun mutation => (t, mutation))
    (horder : d.queueing? t mutation = some order) : d.Asks call order := by
  obtain ⟨batch, hfind, hnext⟩ := Option.bind_eq_some_iff.mp horder
  obtain ⟨mutation, hread, hnext⟩ := Option.bind_eq_some_iff.mp hnext
  obtain rfl := Option.some.inj hnext
  rw [hread, Option.map_some] at hmutation
  exact .queue hmutation hfind

/-- A snapshot is released through its own database only. -/
theorem asks_of_releasing {t u : Token} {id : SessionId} {child : Child SnapshotId}
    (hdatabase : d.databases.find? t = some id) (hfind : d.snapshots.find? u = some child)
    (horder : (if child.owner = t then some (Order.freeSnapshot u child.thing) else none) =
      some order) : d.Asks (.releaseSnapshot t u) order := by
  split at horder
  · rename_i howner
    obtain rfl := Option.some.inj horder
    subst howner
    exact .releaseSnapshot hdatabase hfind
  · simp at horder

/-- Only the first callback is installed. -/
theorem asks_of_listening {level : Level}
    (horder : (if d.listening then none
      else some (Order.listen (Gateway.chosenFilter d.directives level))) = some order) :
    d.Asks (.installCallback level true) order := by
  split at horder
  · simp at horder
  · rename_i hlistening
    obtain rfl := Option.some.inj horder
    exact .installCallback level (by simpa using hlistening)

/-- A call without a place for its result asks for nothing. -/
theorem asks_of_none (horder : none = some order) : d.Asks call order := by
  simp at horder

/-- An order that comes of a look-up comes of what has been found. -/
theorem asks_of_bind {α : Type} {found : Option α} {next : α → Option Order}
    (horder : found.bind next = some order)
    (hasks : ∀ a, found = some a → next a = some order → d.Asks call order) :
    d.Asks call order := by
  obtain ⟨a, hfound, hnext⟩ := Option.bind_eq_some_iff.mp horder
  exact hasks a hfound hnext

/-- After the last look-up the order is there. -/
theorem asks_of_find {α : Type} {found : Option α} {make : α → Order}
    (horder : (found.bind fun a => some (make a)) = some order)
    (hasks : ∀ a, found = some a → d.Asks call (make a)) : d.Asks call order := by
  obtain ⟨a, hfound, hnext⟩ := Option.bind_eq_some_iff.mp horder
  obtain rfl := Option.some.inj hnext
  exact hasks a hfound

/-- A slice or a path is read, and then the order is there. -/
theorem asks_of_read {ε α : Type} {read : Except ε α} {make : α → Order}
    (horder : (read.toOption.bind fun a => some (make a)) = some order)
    (hasks : ∀ a, read = .ok a → d.Asks call (make a)) : d.Asks call order :=
  asks_of_find horder fun a hread => hasks a (ok_of_toOption hread)

/-- An order that is found in a call is what the call asks for. -/
theorem asks_of_order? (horder : d.order? call = some order) : d.Asks call order := by
  cases call with
  | openPath path options place =>
    cases place with
    | false => exact asks_of_none horder
    | true => exact asks_of_read horder fun text hpath => .openPath hpath options
  | openMemory options place =>
    cases place with
    | false => exact asks_of_none horder
    | true =>
      obtain rfl := Option.some.inj horder
      exact .openMemory options
  | close t => exact asks_of_find horder fun id hfind => .close hfind
  | put t sync key value =>
    refine asks_of_bind horder fun id hfind horder => ?_
    refine asks_of_bind horder fun k hkey horder => ?_
    exact asks_of_read horder fun v hvalue => .put hfind (ok_of_toOption hkey) hvalue sync
  | delete t sync key =>
    refine asks_of_bind horder fun id hfind horder => ?_
    exact asks_of_read horder fun k hkey => .delete hfind hkey sync
  | write t sync u =>
    refine asks_of_bind horder fun id hfind horder => ?_
    exact asks_of_find horder fun batch hbatch => .write hfind hbatch sync
  | get t u key place =>
    cases place with
    | false => exact asks_of_none horder
    | true =>
      refine asks_of_bind horder fun id hfind horder => ?_
      refine asks_of_bind horder fun through hsnapshot horder => ?_
      exact asks_of_read horder fun k hkey => .get hfind hsnapshot hkey
  | property t name place =>
    cases place with
    | false => exact asks_of_none horder
    | true =>
      refine asks_of_bind horder fun id hfind horder => ?_
      exact asks_of_read horder fun n hname => .property hfind hname
  | destroy path => exact asks_of_read horder fun text hpath => .destroy hpath
  | repair path => exact asks_of_read horder fun text hpath => .repair hpath
  | iterate t fillCache u place =>
    cases place with
    | false => exact asks_of_none horder
    | true =>
      refine asks_of_bind horder fun id hfind horder => ?_
      exact asks_of_find horder fun through hsnapshot => .iterate hfind hsnapshot fillCache
  | seek t key =>
    refine asks_of_bind horder fun k hkey horder => asks_of_moving? ?_ horder
    rw [Call.move?, hkey]
    rfl
  | first t => exact asks_of_moving? rfl horder
  | last t => exact asks_of_moving? rfl horder
  | next t => exact asks_of_moving? rfl horder
  | prev t => exact asks_of_moving? rfl horder
  | isValid t place =>
    cases place with
    | false => exact asks_of_none horder
    | true => exact asks_of_find horder fun child hfind => .isValid hfind
  | key t place =>
    cases place with
    | false => exact asks_of_none horder
    | true => exact asks_of_find horder fun child hfind => .key hfind
  | value t place =>
    cases place with
    | false => exact asks_of_none horder
    | true => exact asks_of_find horder fun child hfind => .value hfind
  | status t => exact asks_of_find horder fun child hfind => .status hfind
  | freeIterator t => exact asks_of_find horder fun child hfind => .freeIterator hfind
  | snapshot t place =>
    cases place with
    | false => exact asks_of_none horder
    | true => exact asks_of_find horder fun id hfind => .snapshot hfind
  | releaseSnapshot t u =>
    refine asks_of_bind horder fun id hdatabase horder => ?_
    exact asks_of_bind horder fun child hfind horder => asks_of_releasing hdatabase hfind horder
  | createBatch place =>
    cases place with
    | false => exact asks_of_none horder
    | true =>
      obtain rfl := Option.some.inj horder
      exact .createBatch
  | batchPut t key value => exact asks_of_queueing? rfl horder
  | batchDelete t key => exact asks_of_queueing? rfl horder
  | clearBatch t => exact asks_of_find horder fun batch hfind => .clearBatch hfind
  | countBatch t place =>
    cases place with
    | false => exact asks_of_none horder
    | true => exact asks_of_find horder fun batch hfind => .countBatch hfind
  | freeBatch t => exact asks_of_find horder fun batch hfind => .freeBatch hfind
  | installCallback level callback =>
    cases callback with
    | false => exact asks_of_none horder
    | true => exact asks_of_listening horder

theorem order?_of_move? {t : Token} {m : Move} {child : Child IteratorId}
    (hmove : call.move? = some (t, m)) (hfind : d.iterators.find? t = some child) :
    d.order? call = some (.act child.owner (.move child.thing m)) := by
  have hmoving : ∀ m, d.moving? t m = some (.act child.owner (.move child.thing m)) :=
    fun m => Option.bind_eq_some_iff.mpr ⟨child, hfind, rfl⟩
  cases call with
  | seek u key =>
    obtain ⟨contents, hread, heq⟩ := Option.map_eq_some_iff.mp hmove
    obtain ⟨rfl, rfl⟩ := Prod.mk.inj heq
    exact Option.bind_eq_some_iff.mpr ⟨contents, hread, hmoving _⟩
  | first u | last u | next u | prev u =>
    obtain ⟨rfl, rfl⟩ := Prod.mk.inj (Option.some.inj hmove)
    exact hmoving _
  | _ => exact absurd hmove (by simp [Call.move?])

theorem order?_of_mutation? {t : Token} {mutation : Mutation} {batch : Batch}
    (hmutation : call.mutation? = some (t, mutation)) (hfind : d.batches.find? t = some batch) :
    d.order? call = some (.setBatch t (batch.push mutation)) := by
  have hqueueing : ∀ {read : Except Failure Mutation}, read.toOption = some mutation →
      d.queueing? t read = some (.setBatch t (batch.push mutation)) := fun hread =>
    Option.bind_eq_some_iff.mpr
      ⟨batch, hfind, Option.bind_eq_some_iff.mpr ⟨mutation, hread, rfl⟩⟩
  cases call with
  | batchPut u key value | batchDelete u key =>
    obtain ⟨read, hread, heq⟩ := Option.map_eq_some_iff.mp hmutation
    obtain ⟨rfl, rfl⟩ := Prod.mk.inj heq
    exact hqueueing hread
  | _ => exact absurd hmutation (by simp [Call.mutation?])

/-- What a call asks for is found in it. -/
theorem Asks.order?_eq (hasks : d.Asks call order) : d.order? call = some order := by
  have found : ∀ {α : Type} {o : Option α} {a : α} {next : α → Option Order}, o = some a →
      next a = some order → o.bind next = some order := fun hsome hnext =>
    Option.bind_eq_some_iff.mpr ⟨_, hsome, hnext⟩
  cases hasks with
  | move hmove hfind => exact order?_of_move? hmove hfind
  | queue hmutation hfind => exact order?_of_mutation? hmutation hfind
  | openPath hpath options => exact found (toOption_of_ok hpath) rfl
  | openMemory options => rfl
  | close hfind => exact found hfind rfl
  | put hfind hkey hvalue sync =>
    exact found hfind (found (toOption_of_ok hkey) (found (toOption_of_ok hvalue) rfl))
  | delete hfind hkey sync => exact found hfind (found (toOption_of_ok hkey) rfl)
  | write hfind hbatch sync => exact found hfind (found hbatch rfl)
  | get hfind hsnapshot hkey =>
    exact found hfind (found hsnapshot (found (toOption_of_ok hkey) rfl))
  | property hfind hname => exact found hfind (found (toOption_of_ok hname) rfl)
  | destroy hpath => exact found (toOption_of_ok hpath) rfl
  | repair hpath => exact found (toOption_of_ok hpath) rfl
  | iterate hfind hsnapshot fillCache => exact found hfind (found hsnapshot rfl)
  | isValid hfind => exact found hfind rfl
  | key hfind => exact found hfind rfl
  | value hfind => exact found hfind rfl
  | status hfind => exact found hfind rfl
  | freeIterator hfind => exact found hfind rfl
  | snapshot hfind => exact found hfind rfl
  | releaseSnapshot howner hfind => exact found howner (found hfind (if_pos rfl))
  | createBatch => rfl
  | clearBatch hfind => exact found hfind rfl
  | countBatch hfind => exact found hfind rfl
  | freeBatch hfind => exact found hfind rfl
  | installCallback level hlistening => exact if_neg (by simp [hlistening])

/-- What is built is what the call is for. -/
theorem Asks.kind?_eq (hasks : d.Asks call order) : order.kind? = call.kind? := by
  cases hasks with
  | @move call t m child hmove hfind =>
    cases call with
    | seek | first | last | next | prev => rfl
    | _ => simp [Call.move?] at hmove
  | @queue call t mutation batch hmutation hfind =>
    cases call with
    | batchPut | batchDelete => rfl
    | _ => simp [Call.mutation?] at hmutation
  | _ => rfl

/-! ## What calls name -/

theorem Orderly.ready (h : d.Orderly) {t : Token} {id : SessionId} {action : Store.Action}
    (hheld : (t, id) ∈ d.databases.held)
    (hready : d.store.isOpen id = true → d.store.Ready action)
    (hbuilding : ∀ id', (action = .snapshot id' ∨ ∃ through, action = .iterate id' through) →
      id' = id) : d.Finds (.act t action) :=
  .act (hready (h.isOpen hheld)) fun id' hid' => hbuilding id' hid' ▸ hheld

/-- Whatever a call asks for, it names things that are there. -/
theorem Orderly.finds (h : d.Orderly) (hasks : d.Asks call order) : d.Finds order := by
  have hdatabase : ∀ {t : Token} {id : SessionId}, d.databases.find? t = some id →
      (t, id) ∈ d.databases.held := h.databases.find?_eq_some_iff.mp
  have hiterator : ∀ {t : Token} {child : Child IteratorId}, d.iterators.find? t = some child →
      (t, child) ∈ d.iterators.held := h.iterators.valid.find?_eq_some_iff.mp
  cases hasks with
  | openPath hpath options => exact .act (.openAt _ _) (by simp)
  | openMemory options => exact .act (.openMemory _) (by simp)
  | close hfind => exact .close (hdatabase hfind)
  | @put t id key value k v hfind hkey hvalue sync =>
    exact h.ready (hdatabase hfind) (fun hopen => .put hopen k v sync) (by simp)
  | @delete t id key k hfind hkey sync =>
    exact h.ready (hdatabase hfind) (fun hopen => .delete hopen k sync) (by simp)
  | @write t u id batch hfind hbatch sync =>
    exact h.ready (hdatabase hfind) (fun hopen => .write hopen batch sync) (by simp)
  | @get t u id through key k hfind hsnapshot hkey =>
    exact h.ready (hdatabase hfind) (fun hopen => .get hopen through k) (by simp)
  | @property t id name n hfind hname =>
    exact h.ready (hdatabase hfind) (fun hopen => .property hopen n) (by simp)
  | destroy hpath => exact .act (.destroy _) (by simp)
  | repair hpath => exact .act (.repair _) (by simp)
  | @iterate t u id through hfind hsnapshot fillCache =>
    exact h.ready (hdatabase hfind) (fun hopen => .iterate hopen through) (by simp)
  | @move _ t m child hmove hfind =>
    obtain ⟨id, hid, howner⟩ := h.iterators.owned (hiterator hfind)
    exact h.ready hid (fun hopen => .move hopen howner m) (by simp)
  | isValid hfind => exact .isValid (hiterator hfind)
  | key hfind => exact .read (hiterator hfind) _
  | value hfind => exact .read (hiterator hfind) _
  | status hfind => exact .status (hiterator hfind)
  | freeIterator hfind => exact .freeIterator (hiterator hfind)
  | snapshot hfind => exact h.ready (hdatabase hfind) (fun hopen => .snapshot hopen) (by simp)
  | releaseSnapshot howner hfind =>
    exact .freeSnapshot (h.snapshots.valid.find?_eq_some_iff.mp hfind)
  | createBatch => exact .createBatch
  | queue hmutation hfind => exact .setBatch _ _
  | clearBatch hfind => exact .setBatch _ .empty
  | countBatch hfind => exact .countBatch _
  | freeBatch hfind => exact .freeBatch _
  | installCallback level hlistening => exact .listen _

/-- A call that asks for something is not idle. -/
theorem Orderly.isIdle_eq_false (h : d.Orderly) (hasks : d.Asks call order) :
    call.isIdle = false := by
  have hne : ∀ {α : Type} {l : Ledger α} {t : Token} {v : α}, l.Valid → l.find? t = some v →
      t ≠ 0 := by
    rintro α l t v hvalid hfind rfl
    rw [hvalid.find?_zero] at hfind
    simp at hfind
  cases hasks with
  | close hfind => exact decide_eq_false (hne h.databases hfind)
  | freeIterator hfind => exact decide_eq_false (hne h.iterators.valid hfind)
  | releaseSnapshot howner hfind => exact decide_eq_false (hne h.snapshots.valid hfind)
  | freeBatch hfind => exact decide_eq_false (hne h.batches hfind)
  | @move call t m child hmove hfind =>
    cases call with
    | close | freeIterator | releaseSnapshot | freeBatch => simp [Call.move?] at hmove
    | _ => rfl
  | @queue call t mutation batch hmutation hfind =>
    cases call with
    | close | freeIterator | releaseSnapshot | freeBatch => simp [Call.mutation?] at hmutation
    | _ => rfl
  | _ => rfl

end Desk

end OrderedStore
