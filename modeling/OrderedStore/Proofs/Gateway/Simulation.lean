import OrderedStore.Proofs.Gateway.Desk

/-!
# A gateway does what its desk says

A desk matches a gateway if they have the same store and the desk's ledgers describe the
registries.  `Follows` says what a matching gateway does with one call: it carries out
the order that the desk finds in the call, or it refuses the call and stays as it is.

The calls are put together from a few shapes, and so is the proof: there is one lemma
for looking something up, one for each way of answering, and every call is a few of
these in a row.
-/

set_option autoImplicit false

namespace OrderedStore

/-- The failure comes before anything has been done. -/
def Failure.isRefusal : Failure → Bool
  | .store _ | .handle (.exhausted _) => false
  | _ => true

/-- Nothing is in the output place but, maybe, a null value. -/
def Output.isBlank : Output → Bool
  | .untouched => true
  | .token t => t = 0
  | .buffer value => value.isNone
  | .flag value => !value
  | .count _ => false

/-- If something cannot be found then the failure is a refusal. -/
def Refusing {α : Type} (found : Except Failure α) : Prop :=
  ∀ failure, found = .error failure → failure.isRefusal = true

namespace Desk

/-- The desk has the store of a gateway, and its ledgers describe the registries. -/
structure Matches (d : Desk) (g : Gateway) : Prop where
  store : d.store = g.store
  databases : d.databases.Describes .database g.databases
  iterators : d.iterators.Describes .iterator g.iterators
  snapshots : d.snapshots.Describes .snapshot g.snapshots
  batches : d.batches.Describes .batch g.batches
  directives : d.directives = g.directives
  listening : d.listening = g.listening

/-- What a gateway does with a call for which the desk has found an order or none. -/
inductive Follows (d : Desk) (g : Gateway) (call : Call) :
    Option Order → Gateway × Reply → Prop where
  | carried {order : Order} {g' : Gateway} {reply : Reply}
    (reply_eq : reply = (d.carryOut reply.given order).2)
    (ends : (d.carryOut reply.given order).1.Matches g') (words : g'.lastError = g.lastError)
    (fresh : d.Fresh order reply.given)
    (exhausted : ∀ kind, reply.failure = some (.handle (.exhausted kind)) →
      Registry.slotLimit ≤ (d.issued kind).length) :
    Follows d g call (some order) (g', reply)
  | refused {output : Output} {failure : Failure} (blank : output.isBlank = true)
    (refusal : failure.isRefusal = true) :
    Follows d g call none (g.refuse output failure)
  | idle (nothing : call.isIdle = true) : Follows d g call none (g.silently (.ok ()))

theorem matches_ofStore (s : Store) (directives : Option String) :
    (ofStore s directives).Matches (Gateway.ofStore s directives) where
  store := rfl
  databases := Ledger.describes_empty _
  iterators := Ledger.describes_empty _
  snapshots := Ledger.describes_empty _
  batches := Ledger.describes_empty _
  directives := rfl
  listening := rfl

variable {d : Desk} {g : Gateway} {call : Call}

theorem Matches.withError (h : d.Matches g) (lastError : Option String) :
    d.Matches { g with lastError := lastError } :=
  ⟨h.store, h.databases, h.iterators, h.snapshots, h.batches, h.directives, h.listening⟩

/-! ## Looking up -/

theorem isRefusal_faultOf (kind : HandleKind) (t : Token) :
    (Failure.handle (Registry.faultOf kind t)).isRefusal = true := by
  unfold Registry.faultOf
  repeat' split
  all_goals rfl

section Find

variable {α : Type} {l : Ledger α} {kind : HandleKind} {r : Registry α}

theorem find_eq (h : l.Describes kind r) (t : Token) :
    Gateway.find r t = match l.find? t with
      | some v => .ok v
      | none => .error (.handle (Registry.faultOf kind t)) := by
  unfold Gateway.find
  rw [h.get_eq t]
  cases l.find? t <;> rfl

theorem find_toOption (h : l.Describes kind r) (t : Token) :
    (Gateway.find r t).toOption = l.find? t := by
  rw [find_eq h t]
  cases l.find? t <;> rfl

theorem refusing_find (h : l.Describes kind r) (t : Token) : Refusing (Gateway.find r t) := by
  intro failure hfailure
  rw [find_eq h t] at hfailure
  split at hfailure
  · simp at hfailure
  · rw [← Except.error.inj hfailure]
    exact isRefusal_faultOf kind t

end Find

theorem refusing_readPath (path : PathArgument) : Refusing (Gateway.readPath path) := by
  intro failure hfailure
  unfold Gateway.readPath at hfailure
  split at hfailure
  · rw [← Except.error.inj hfailure]
    rfl
  · split at hfailure
    · simp at hfailure
    · rw [← Except.error.inj hfailure]
      rfl

theorem refusing_read (slice : Slice) (argument : Argument) : Refusing (slice.read argument) := by
  intro failure hfailure
  unfold Slice.read at hfailure
  split at hfailure
  · simp at hfailure
  · rw [← Except.error.inj hfailure]
    rfl
  · simp at hfailure

theorem Matches.snapshotFor (h : d.Matches g) (database snapshot : Token) :
    (g.snapshotFor database snapshot).toOption = d.snapshotFor? database snapshot ∧
      Refusing (g.snapshotFor database snapshot) := by
  unfold Gateway.snapshotFor snapshotFor?
  split
  · refine ⟨rfl, fun failure hfailure => ?_⟩
    simp at hfailure
  · rw [find_eq h.snapshots snapshot]
    cases d.snapshots.find? snapshot with
    | none =>
      refine ⟨rfl, fun failure hfailure => ?_⟩
      rw [← Except.error.inj hfailure]
      exact isRefusal_faultOf _ _
    | some child =>
      simp only [Option.bind_some]
      split
      · refine ⟨rfl, fun failure hfailure => ?_⟩
        simp at hfailure
      · refine ⟨rfl, fun failure hfailure => ?_⟩
        rw [← Except.error.inj hfailure]
        rfl

/-! ## Shapes of calls -/

namespace Follows

variable {α : Type} {output : Output}

/-- Something is looked up, and the call goes on with it. -/
theorem withFound {found : Except Failure α} {o : Option α} {next : α → Option Order}
    {go : α → Gateway × Reply} (hblank : output.isBlank = true) (ho : found.toOption = o)
    (hrefusing : Refusing found)
    (hgo : ∀ a, o = some a → Follows d g call (next a) (go a)) :
    Follows d g call (o.bind next) (g.withFound output found go) := by
  cases hfound : found with
  | error failure =>
    rw [← ho, hfound]
    exact .refused hblank (hrefusing failure hfound)
  | ok a =>
    rw [hfound] at ho
    rw [← ho]
    exact hgo a ho.symm

theorem noPlace {go : Gateway × Reply} : Follows d g call none (g.needing false go) :=
  .refused rfl rfl

theorem releasing {t : Token} {order : Option Order} {go : Gateway × Reply}
    (hzero : t = 0 → order = none ∧ call.isIdle = true)
    (hgo : t ≠ 0 → Follows d g call order go) : Follows d g call order (g.releasing t go) := by
  unfold Gateway.releasing
  split
  · rename_i ht
    rw [(hzero ht).1]
    exact .idle (hzero ht).2
  · rename_i ht
    exact hgo ht

/-- An order that builds nothing needs no token. -/
theorem plain {order : Order} {g' : Gateway} {reply : Reply} (hkind : order.kind? = none)
    (hgiven : reply.given = none) (hreply : reply = (d.carryOut none order).2)
    (hends : (d.carryOut none order).1.Matches g') (hwords : g'.lastError = g.lastError)
    (hfailure : ∀ kind, reply.failure ≠ some (.handle (.exhausted kind))) :
    Follows d g call (some order) (g', reply) := by
  refine .carried ?_ ?_ hwords ?_ ?_
  · rw [hgiven]
    exact hreply
  · rw [hgiven]
    exact hends
  · intro kind t hk _
    rw [hkind] at hk
    simp at hk
  · intro kind hk
    exact absurd hk (hfailure kind)

end Follows

theorem Matches.withStore (h : d.Matches g) (s : Store) :
    Matches { d with store := s } { g with store := s } :=
  ⟨rfl, h.databases, h.iterators, h.snapshots, h.batches, h.directives, h.listening⟩

/-- An operation of the store whose outcome is nothing but success or failure. -/
theorem Matches.onStore (h : d.Matches g) {owner : Token} {action : Store.Action}
    {result : Store × Except Error Unit} (hkind : (Order.act owner action).kind? = none)
    (hperform : g.store.perform action = (result.1, .done result.2)) :
    Follows d g call (some (.act owner action)) (g.onStore result) := by
  obtain ⟨s, outcome⟩ := result
  have hstart : d.store.perform action = (s, .done outcome) := by rw [h.store, hperform]
  cases outcome with
  | ok a =>
    refine .plain hkind rfl ?_ ?_ rfl (by intro kind hk; simp at hk)
    · simp only [carryOut, hstart, settle]
    · simp only [carryOut, hstart, settle]
      exact h.withStore s
  | error e =>
    refine .plain hkind rfl ?_ ?_ rfl (by intro kind hk; simp at hk)
    · simp only [carryOut, hstart, settle]
    · simp only [carryOut, hstart, settle]
      exact h.withStore s

/-! ## New things -/

/-- A thing that has been built gets a token, or is let go if there are none left. -/
theorem handOut_follows {order : Order} {kind : HandleKind} {α : Type} {l : Ledger α}
    {r : Registry α} {result : Gateway × Reply} (v : α) (dropped : Desk) (kept : Ledger α → Desk)
    (keep drop : Registry α → Gateway) (hl : l.Describes kind r)
    (hkind : order.kind? = some kind) (hissued : d.issued kind = l.issued)
    (hcarry : ∀ given, d.carryOut given order =
      Desk.handOut kind given (fun t => kept (l.give t v)) dropped)
    (hkept : ∀ l' r', l'.Describes kind r' → (kept l').Matches (keep r'))
    (hdropped : dropped.Matches (drop r))
    (hwords : ∀ r, (keep r).lastError = g.lastError ∧ (drop r).lastError = g.lastError)
    (hgive : ∀ r' t, r.insert v = (r', .ok t) → result = (keep r', ⟨.token t, none⟩))
    (hfault : ∀ r' fault, r.insert v = (r', .error fault) →
      result = (drop r').refuse Gateway.noToken (.handle fault)) :
    Follows d g call (some order) result := by
  -- The desk does not choose a token: it takes the one that the reply shows.
  rcases hl.insert v with ⟨r', t, heq, hzero, hnew, hgiven⟩ | ⟨heq, hfull⟩
  · rw [hgive r' t heq]
    have hstep := hcarry (some t)
    refine .carried ?_ ?_ (hwords r').1 ?_ ?_
    · show _ = (d.carryOut (some t) order).2
      rw [hstep]
      rfl
    · show (d.carryOut (some t) order).1.Matches _
      rw [hstep]
      exact hkept _ _ hgiven
    · intro kind' t' hk ht
      rw [hkind] at hk
      rw [← Option.some.inj hk, hissued, ← Option.some.inj ht]
      exact ⟨hzero, hnew⟩
    · intro kind' hk
      simp at hk
  · rw [hfault r _ heq]
    have hstep := hcarry none
    refine .carried ?_ ?_ (hwords r).2 ?_ ?_
    · show _ = (d.carryOut none order).2
      rw [hstep]
      rfl
    · show (d.carryOut none order).1.Matches _
      rw [hstep]
      exact hdropped
    · intro kind' t' _ ht
      simp [Reply.given, Gateway.noToken] at ht
    · intro kind' hk
      have hsame : kind = kind' := by simpa [Gateway.refuse] using hk
      rw [← hsame, hissued]
      exact hfull

theorem Matches.register (h : d.Matches g) {owner : Token} {action : Store.Action} {s : Store}
    {id : SessionId} (hkind : (Order.act owner action).kind? = some .database)
    (hperform : g.store.perform action = (s, .opened (.ok id))) :
    Follows d g call (some (.act owner action)) (Gateway.register { g with store := s } id) := by
  have hstart : d.store.perform action = (s, .opened (.ok id)) := by rw [h.store, hperform]
  refine handOut_follows id { d with store := s.discard id }
    (fun l => { d with store := s, databases := l })
    (fun r => { g with store := s, databases := r })
    (fun r => { g with store := s.discard id, databases := r }) h.databases hkind rfl
    ?_ ?_ ?_ (fun _ => ⟨rfl, rfl⟩) ?_ ?_
  · intro given
    simp only [carryOut, hstart, settle]
  · intro l r hl
    exact ⟨rfl, hl, h.iterators, h.snapshots, h.batches, h.directives, h.listening⟩
  · exact h.withStore (s.discard id)
  · intro r' t heq
    simp only [Gateway.register, heq]
  · intro r' fault heq
    simp only [Gateway.register, heq]

theorem Matches.registerIterator (h : d.Matches g) {owner : Token} {action : Store.Action}
    {s : Store} {iterator : IteratorId} (hkind : (Order.act owner action).kind? = some .iterator)
    (hperform : g.store.perform action = (s, .iterator (.ok iterator))) :
    Follows d g call (some (.act owner action))
      (Gateway.registerIterator { g with store := s } owner iterator) := by
  have hstart : d.store.perform action = (s, .iterator (.ok iterator)) := by
    rw [h.store, hperform]
  refine handOut_follows ⟨owner, iterator⟩ { d with store := s.dropIterator iterator }
    (fun l => { d with store := s, iterators := l })
    (fun r => { g with store := s, iterators := r })
    (fun r => { g with store := s.dropIterator iterator, iterators := r }) h.iterators hkind rfl
    ?_ ?_ ?_ (fun _ => ⟨rfl, rfl⟩) ?_ ?_
  · intro given
    simp only [carryOut, hstart, settle]
  · intro l r hl
    exact ⟨rfl, h.databases, hl, h.snapshots, h.batches, h.directives, h.listening⟩
  · exact h.withStore (s.dropIterator iterator)
  · intro r' t heq
    simp only [Gateway.registerIterator, heq]
  · intro r' fault heq
    simp only [Gateway.registerIterator, heq]

theorem Matches.registerSnapshot (h : d.Matches g) {owner : Token} {action : Store.Action}
    {s : Store} {snapshot : SnapshotId} (hkind : (Order.act owner action).kind? = some .snapshot)
    (hperform : g.store.perform action = (s, .snapshot (.ok snapshot))) :
    Follows d g call (some (.act owner action))
      (Gateway.registerSnapshot { g with store := s } owner snapshot) := by
  have hstart : d.store.perform action = (s, .snapshot (.ok snapshot)) := by
    rw [h.store, hperform]
  refine handOut_follows ⟨owner, snapshot⟩ { d with store := s.dropSnapshot snapshot }
    (fun l => { d with store := s, snapshots := l })
    (fun r => { g with store := s, snapshots := r })
    (fun r => { g with store := s.dropSnapshot snapshot, snapshots := r }) h.snapshots hkind rfl
    ?_ ?_ ?_ (fun _ => ⟨rfl, rfl⟩) ?_ ?_
  · intro given
    simp only [carryOut, hstart, settle]
  · intro l r hl
    exact ⟨rfl, h.databases, h.iterators, hl, h.batches, h.directives, h.listening⟩
  · exact h.withStore (s.dropSnapshot snapshot)
  · intro r' t heq
    simp only [Gateway.registerSnapshot, heq]
  · intro r' fault heq
    simp only [Gateway.registerSnapshot, heq]

/-- A store that could not build anything has still changed. -/
theorem Matches.unbuilt (h : d.Matches g) {owner : Token} {action : Store.Action} {s : Store}
    {answer : Store.Answer} {e : Error} (hperform : g.store.perform action = (s, answer))
    (hanswer : answer = .opened (.error e) ∨ answer = .snapshot (.error e) ∨
      answer = .iterator (.error e)) :
    Follows d g call (some (.act owner action))
      (Gateway.refuse { g with store := s } Gateway.noToken (.store e)) := by
  have hstart : d.store.perform action = (s, answer) := by rw [h.store, hperform]
  have hcarry : d.carryOut none (.act owner action) =
      ({ d with store := s }, ⟨Gateway.noToken, some (.store e)⟩) := by
    rcases hanswer with rfl | rfl | rfl <;> simp only [carryOut, hstart, settle]
  refine .carried ?_ ?_ rfl ?_ ?_
  · show _ = (d.carryOut none (.act owner action)).2
    rw [hcarry]
  · show (d.carryOut none (.act owner action)).1.Matches _
    rw [hcarry]
    exact h.withStore s
  · intro kind t _ ht
    simp [Reply.given, Gateway.noToken] at ht
  · intro kind hk
    simp at hk

/-- What the store builds is kept, if the store could build it. -/
theorem Matches.built (h : d.Matches g) {α : Type} {owner : Token} {action : Store.Action}
    {result : Store × Except Error α} {wrap : Except Error α → Store.Answer}
    {keep : Gateway → α → Gateway × Reply}
    (hperform : g.store.perform action = (result.1, wrap result.2))
    (herror : ∀ e, wrap (.error e) = .opened (.error e) ∨ wrap (.error e) = .snapshot (.error e) ∨
      wrap (.error e) = .iterator (.error e))
    (hkeep : ∀ s a, g.store.perform action = (s, wrap (.ok a)) →
      Follows d g call (some (.act owner action)) (keep { g with store := s } a)) :
    Follows d g call (some (.act owner action)) (g.withStore Gateway.noToken result keep) := by
  obtain ⟨s, outcome⟩ := result
  cases outcome with
  | error e => exact h.unbuilt hperform (herror e)
  | ok a => exact hkeep s a hperform

/-! ## Closing -/

theorem run_map_dropIterator (s : Store) (children : List (Child IteratorId)) :
    s.run ((children.map Child.thing).map .dropIterator) =
      children.foldl (fun s child => s.dropIterator child.thing) s := by
  rw [Store.run, List.foldl_map, List.foldl_map]
  rfl

theorem run_map_dropSnapshot (s : Store) (children : List (Child SnapshotId)) :
    s.run ((children.map Child.thing).map .dropSnapshot) =
      children.foldl (fun s child => s.dropSnapshot child.thing) s := by
  rw [Store.run, List.foldl_map, List.foldl_map]
  rfl

/-- Once the token of a session has been taken away nobody else holds the session. -/
theorem Matches.remove_database (h : d.Matches g) {t : Token} {id : SessionId}
    (hfind : d.databases.find? t = some id)
    (hsole : ∀ u, (u, id) ∈ d.databases.held → u = t) :
    ∃ databases, g.databases.remove t = (databases, .ok id) ∧
      (d.databases.strike fun u _ => u = t).Describes .database databases ∧
      databases.matching (fun other => other = id) = [] := by
  obtain ⟨databases, hremove, hdatabases⟩ := h.databases.remove_of_find? hfind
  refine ⟨databases, hremove, hdatabases, hdatabases.matching_eq_nil fun u other hmem => ?_⟩
  obtain ⟨hheld, hne⟩ := Ledger.mem_strike.mp hmem
  refine decide_eq_false fun heq => ?_
  rw [heq] at hheld
  rw [hsole u hheld] at hne
  simp at hne

/-- What was made through a token is what the registry removes with it. -/
theorem madeThrough_eq {α : Type} {l : Ledger (Child α)} {kind : HandleKind}
    {r : Registry (Child α)} (h : l.Describes kind r) (t : Token) :
    l.madeThrough t = (r.removeWhere fun child => child.owner = t).2.map Child.thing := by
  rw [(h.removeWhere fun child => child.owner = t).2, List.map_map]
  rfl

theorem Matches.close (h : d.Matches g) {t : Token} {id : SessionId}
    (hfind : d.databases.find? t = some id)
    (hsole : ∀ u, (u, id) ∈ d.databases.held → u = t) :
    Follows d g call (some (.close t id)) (g.close t) := by
  obtain ⟨databases, hremove, hdatabases, hothers⟩ := h.remove_database hfind hsole
  have hiterators := (h.iterators.removeWhere fun child => child.owner = t).1
  have hsnapshots := (h.snapshots.removeWhere fun child => child.owner = t).1
  have hmade := madeThrough_eq h.iterators t
  have hmade' := madeThrough_eq h.snapshots t
  have hstore : (d.carryOut none (.close t id)).1.store = (g.close t).1.store := by
    simp only [carryOut, emptying, leftOpen, Gateway.close, hremove, Gateway.silently,
      Gateway.letGo, hothers, if_true]
    rw [Store.run_append, Store.run_append, hmade, hmade', run_map_dropIterator,
      run_map_dropSnapshot, h.store]
    simp only [List.isEmpty_map, List.length_map]
    split <;> rfl
  have hclose : ∃ s, g.close t = ({ g with
      store := s
      databases := databases
      iterators := (g.iterators.removeWhere fun child => child.owner = t).1
      snapshots := (g.snapshots.removeWhere fun child => child.owner = t).1 },
      ⟨.untouched, none⟩) := by
    simp only [Gateway.close, hremove]
    exact ⟨_, rfl⟩
  obtain ⟨s, heq⟩ := hclose
  rw [heq] at hstore ⊢
  refine .plain rfl rfl rfl ?_ rfl (by intro kind hk; simp at hk)
  exact ⟨hstore, hdatabases, hiterators, hsnapshots, h.batches, h.directives, h.listening⟩

/-! ## Iterators, snapshots and batches -/

theorem Matches.position (h : d.Matches g) (t : Token) (m : Move) :
    Follows d g call (d.moving? t m) (g.position t m) :=
  .withFound rfl (find_toOption h.iterators t) (refusing_find h.iterators t) fun _ _ =>
    h.onStore rfl rfl

/-- An order that only looks at the store. -/
theorem Matches.look (h : d.Matches g) {order : Order} {output : Output}
    (hkind : order.kind? = none) (hcarry : d.carryOut none order = (d, ⟨output, none⟩))
    (hgiven : Reply.given ⟨output, none⟩ = none) :
    Follows d g call (some order) (g, ⟨output, none⟩) := by
  refine .plain hkind hgiven ?_ ?_ rfl (by intro kind hk; simp at hk)
  · rw [hcarry]
  · rw [hcarry]
    exact h

theorem Matches.readEntry (h : d.Matches g) (t : Token) (part : Entry → Bytes) :
    Follows d g call (d.reading? t part)
      (g.withFound (.buffer none) (Gateway.find g.iterators t) fun child =>
        (g, ⟨.buffer ((g.store.entry? child.thing).map part), none⟩)) :=
  .withFound rfl (find_toOption h.iterators t) (refusing_find h.iterators t) fun _ _ =>
    h.look rfl (by rw [← h.store]; rfl) rfl

theorem Matches.freeIterator (h : d.Matches g) {t : Token} {child : Child IteratorId}
    (hfind : d.iterators.find? t = some child) :
    Follows d g call (some (.freeIterator t child.thing))
      (Gateway.silently { g with
        iterators := (g.iterators.remove t).1
        store := g.store.dropIterator child.thing } (.ok ())) := by
  obtain ⟨iterators, hremove, hiterators⟩ := h.iterators.remove_of_find? hfind
  refine .plain rfl rfl rfl ?_ rfl (by intro kind hk; simp at hk)
  refine ⟨?_, h.databases, ?_, h.snapshots, h.batches, h.directives, h.listening⟩
  · exact congrArg (Store.dropIterator · child.thing) h.store
  · rw [hremove]
    exact hiterators

theorem Matches.freeSnapshot (h : d.Matches g) {t : Token} {child : Child SnapshotId}
    (hfind : d.snapshots.find? t = some child) :
    Follows d g call (some (.freeSnapshot t child.thing))
      (Gateway.silently { g with
        snapshots := (g.snapshots.remove t).1
        store := g.store.dropSnapshot child.thing } (.ok ())) := by
  obtain ⟨snapshots, hremove, hsnapshots⟩ := h.snapshots.remove_of_find? hfind
  refine .plain rfl rfl rfl ?_ rfl (by intro kind hk; simp at hk)
  refine ⟨?_, h.databases, h.iterators, ?_, h.batches, h.directives, h.listening⟩
  · exact congrArg (Store.dropSnapshot · child.thing) h.store
  · rw [hremove]
    exact hsnapshots

theorem Matches.release (h : d.Matches g) (database snapshot : Token) :
    Follows d g call ((d.databases.find? database).bind fun _ =>
      (d.snapshots.find? snapshot).bind fun child =>
        if child.owner = database then some (.freeSnapshot snapshot child.thing) else none)
      (g.release database snapshot) := by
  refine .withFound rfl (find_toOption h.databases database) (refusing_find h.databases database)
    fun _ _ => ?_
  refine .withFound rfl (find_toOption h.snapshots snapshot) (refusing_find h.snapshots snapshot)
    fun child hfind => ?_
  by_cases howner : child.owner = database
  · rw [if_pos howner, if_neg (not_not_intro howner)]
    exact h.freeSnapshot hfind
  · rw [if_neg howner, if_pos howner]
    exact .refused rfl rfl

theorem Matches.modifyBatch (h : d.Matches g) {t : Token} {batch : Batch}
    (hfind : d.batches.find? t = some batch) (f : Batch → Batch) :
    Follows d g call (some (.setBatch t (f batch))) ((g.modifyBatch t f).silently (.ok ())) := by
  refine .plain rfl rfl rfl ?_ rfl (by intro kind hk; simp at hk)
  exact ⟨h.store, h.databases, h.iterators, h.snapshots, h.batches.modify f hfind, h.directives,
    h.listening⟩

/-- A put is read from its arguments one after the other. -/
theorem withFound_readPut {key value : Slice} {output : Output}
    {next : Bytes → Bytes → Option Order} {go : Mutation → Gateway × Reply}
    (hblank : output.isBlank = true)
    (hgo : ∀ key value, Follows d g call (next key value) (go (.put key value))) :
    Follows d g call
      ((key.read .key).toOption.bind fun key => (value.read .value).toOption.bind (next key))
      (g.withFound output (Gateway.readPut key value) go) := by
  unfold Gateway.readPut
  cases hkey : key.read .key with
  | error failure => exact .refused hblank (refusing_read key .key failure hkey)
  | ok key =>
    cases hvalue : value.read .value with
    | error failure => exact .refused hblank (refusing_read value .value failure hvalue)
    | ok value => exact hgo key value

theorem withFound_readDelete {key : Slice} {output : Output} {next : Bytes → Option Order}
    {go : Mutation → Gateway × Reply} (hblank : output.isBlank = true)
    (hgo : ∀ key, Follows d g call (next key) (go (.delete key))) :
    Follows d g call ((key.read .key).toOption.bind next)
      (g.withFound output (Gateway.readDelete key) go) := by
  unfold Gateway.readDelete
  cases hkey : key.read .key with
  | error failure => exact .refused hblank (refusing_read key .key failure hkey)
  | ok key => exact hgo key

theorem refusing_readPut (key value : Slice) : Refusing (Gateway.readPut key value) := by
  intro failure hfailure
  unfold Gateway.readPut at hfailure
  cases hkey : key.read .key with
  | error e =>
    rw [hkey] at hfailure
    have hsame : (.error e : Except Failure Mutation) = .error failure := hfailure
    exact refusing_read key .key failure (Except.error.inj hsame ▸ hkey)
  | ok bytes =>
    cases hvalue : value.read .value with
    | error e =>
      rw [hkey, hvalue] at hfailure
      have hsame : (.error e : Except Failure Mutation) = .error failure := hfailure
      exact refusing_read value .value failure (Except.error.inj hsame ▸ hvalue)
    | ok word =>
      rw [hkey, hvalue] at hfailure
      have hsame : (.ok (.put bytes word) : Except Failure Mutation) = .error failure := hfailure
      simp at hsame

theorem refusing_readDelete (key : Slice) : Refusing (Gateway.readDelete key) := by
  intro failure hfailure
  unfold Gateway.readDelete at hfailure
  cases hkey : key.read .key with
  | error e =>
    rw [hkey] at hfailure
    have hsame : (.error e : Except Failure Mutation) = .error failure := hfailure
    exact refusing_read key .key failure (Except.error.inj hsame ▸ hkey)
  | ok bytes =>
    rw [hkey] at hfailure
    have hsame : (.ok (.delete bytes) : Except Failure Mutation) = .error failure := hfailure
    simp at hsame

theorem Matches.queue (h : d.Matches g) (t : Token) {mutation : Except Failure Mutation}
    (hrefusing : Refusing mutation) :
    Follows d g call (d.queueing? t mutation) (g.queue t mutation) :=
  .withFound rfl (find_toOption h.batches t) (refusing_find h.batches t) fun _ hfind =>
    .withFound rfl rfl hrefusing fun mutation _ => h.modifyBatch hfind (·.push mutation)

/-! ## All calls -/

section Lookup

variable {output : Output} (hblank : output.isBlank = true)

include hblank

theorem Matches.onDatabase (h : d.Matches g) {t : Token} {next : SessionId → Option Order}
    {go : SessionId → Gateway × Reply} (hgo : ∀ id, Follows d g call (next id) (go id)) :
    Follows d g call ((d.databases.find? t).bind next)
      (g.withFound output (Gateway.find g.databases t) go) :=
  .withFound hblank (find_toOption h.databases t) (refusing_find h.databases t) fun id _ => hgo id

theorem Matches.onIterator (h : d.Matches g) {t : Token}
    {next : Child IteratorId → Option Order} {go : Child IteratorId → Gateway × Reply}
    (hgo : ∀ child, d.iterators.find? t = some child → Follows d g call (next child) (go child)) :
    Follows d g call ((d.iterators.find? t).bind next)
      (g.withFound output (Gateway.find g.iterators t) go) :=
  .withFound hblank (find_toOption h.iterators t) (refusing_find h.iterators t) hgo

theorem Matches.onBatch (h : d.Matches g) {t : Token} {next : Batch → Option Order}
    {go : Batch → Gateway × Reply}
    (hgo : ∀ batch, d.batches.find? t = some batch → Follows d g call (next batch) (go batch)) :
    Follows d g call ((d.batches.find? t).bind next)
      (g.withFound output (Gateway.find g.batches t) go) :=
  .withFound hblank (find_toOption h.batches t) (refusing_find h.batches t) hgo

theorem Matches.onSnapshot (h : d.Matches g) {database snapshot : Token}
    {next : Option SnapshotId → Option Order} {go : Option SnapshotId → Gateway × Reply}
    (hgo : ∀ snapshot, Follows d g call (next snapshot) (go snapshot)) :
    Follows d g call ((d.snapshotFor? database snapshot).bind next)
      (g.withFound output (g.snapshotFor database snapshot) go) :=
  .withFound hblank (h.snapshotFor database snapshot).1 (h.snapshotFor database snapshot).2
    fun snapshot _ => hgo snapshot

end Lookup

/-- The null token stands for nothing. -/
theorem bind_find?_zero {α : Type} {l : Ledger α} {kind : HandleKind} {r : Registry α} {t : Token}
    {next : α → Option Order} (h : l.Describes kind r) (ht : t = 0) :
    (l.find? t).bind next = none := by
  rw [ht, h.valid.find?_zero]
  rfl

theorem Matches.closing (h : d.Matches g)
    (hsole : ∀ {t u : Token} {id : SessionId}, (t, id) ∈ d.databases.held →
      (u, id) ∈ d.databases.held → u = t) (t : Token) :
    Follows d g call ((d.databases.find? t).bind fun id => some (.close t id)) (g.close t) := by
  cases hfind : d.databases.find? t with
  | none =>
    unfold Gateway.close
    rw [h.databases.remove_of_none hfind]
    exact .refused rfl (isRefusal_faultOf .database t)
  | some id =>
    refine h.close hfind fun u hu => ?_
    exact hsole (h.databases.valid.find?_eq_some_iff.mp hfind) hu

/-- An order whose outcome goes into a buffer. -/
theorem Matches.get (h : d.Matches g) {owner : Token} {action : Store.Action} {s : Store}
    {outcome : Except Error (Option Bytes)} (hkind : (Order.act owner action).kind? = none)
    (hperform : g.store.perform action = (s, .value outcome)) :
    Follows d g call (some (.act owner action))
      (g.withStore (.buffer none) (s, outcome) fun g value => (g, ⟨.buffer value, none⟩)) := by
  have hstart : d.store.perform action = (s, .value outcome) := by rw [h.store, hperform]
  cases outcome with
  | ok value =>
    refine .plain hkind rfl ?_ ?_ rfl (by intro kind hk; simp at hk)
    · simp only [carryOut, hstart, settle]
    · simp only [carryOut, hstart, settle]
      exact h.withStore s
  | error e =>
    refine .plain hkind rfl ?_ ?_ rfl (by intro kind hk; simp at hk)
    · simp only [carryOut, hstart, settle]
    · simp only [carryOut, hstart, settle]
      exact h.withStore s

theorem Matches.property (h : d.Matches g) (owner : Token) (id : SessionId) (name : Bytes) :
    Follows d g call (some (.act owner (.property id name)))
      ({ g with store := (g.store.property id name).1 },
        ⟨.buffer ((g.store.property id name).2.map utf8), none⟩) := by
  refine .plain rfl rfl ?_ ?_ rfl (by intro kind hk; simp at hk)
  · rw [← h.store]
    rfl
  · rw [← h.store]
    exact h.withStore (d.store.property id name).1

theorem Matches.status (h : d.Matches g) (iterator : IteratorId) :
    Follows d g call (some (.status iterator))
      (g.onStore (g.store, g.store.status iterator)) := by
  have hcarry : d.carryOut none (.status iterator) =
      d.settle 0 none (.done (g.store.status iterator)) := by
    rw [← h.store]
    rfl
  cases houtcome : g.store.status iterator with
  | ok a =>
    rw [houtcome] at hcarry
    refine .plain rfl rfl ?_ ?_ rfl (by intro kind hk; simp at hk)
    · rw [hcarry]
      rfl
    · rw [hcarry]
      exact h
  | error e =>
    rw [houtcome] at hcarry
    refine .plain rfl rfl ?_ ?_ rfl (by intro kind hk; simp at hk)
    · rw [hcarry]
      rfl
    · rw [hcarry]
      exact h

theorem Matches.createBatch (h : d.Matches g) :
    Follows d g call (some .createBatch) (match g.batches.insert .empty with
      | (batches, .ok t) => ({ g with batches := batches }, ⟨.token t, none⟩)
      | (_, .error fault) => g.refuse Gateway.noToken (.handle fault)) := by
  refine handOut_follows .empty d (fun l => { d with batches := l })
    (fun r => { g with batches := r }) (fun _ => g) h.batches rfl rfl ?_ ?_ h
    (fun _ => ⟨rfl, rfl⟩) ?_ ?_
  · intro given
    rfl
  · intro l r hl
    exact ⟨h.store, h.databases, h.iterators, h.snapshots, hl, h.directives, h.listening⟩
  · intro r' t heq
    simp only [heq]
  · intro r' fault heq
    simp only [heq]

theorem Matches.freeBatch (h : d.Matches g) {t : Token} {batch : Batch}
    (hfind : d.batches.find? t = some batch) :
    Follows d g call (some (.freeBatch t))
      (Gateway.silently { g with batches := (g.batches.remove t).1 } (.ok ())) := by
  obtain ⟨batches, hremove, hbatches⟩ := h.batches.remove_of_find? hfind
  refine .plain rfl rfl rfl ?_ rfl (by intro kind hk; simp at hk)
  refine ⟨h.store, h.databases, h.iterators, h.snapshots, ?_, h.directives, h.listening⟩
  rw [hremove]
  exact hbatches

theorem Matches.install (h : d.Matches g) (level : Level) :
    Follows d g call
      (if d.listening then none else some (.listen (Gateway.chosenFilter d.directives level)))
      (g.install level) := by
  unfold Gateway.install
  rw [h.listening, h.directives]
  split
  · exact .refused rfl rfl
  · refine .plain rfl rfl rfl ?_ rfl (by intro kind hk; simp at hk)
    refine ⟨?_, h.databases, h.iterators, h.snapshots, h.batches, h.directives, rfl⟩
    rw [← h.store]
    rfl

/-- A gateway carries out what its desk finds in a call, and refuses every other call.  Each
session has one token only. -/
theorem Matches.perform (h : d.Matches g)
    (hsole : ∀ {t u : Token} {id : SessionId}, (t, id) ∈ d.databases.held →
      (u, id) ∈ d.databases.held → u = t) (call : Call) :
    Follows d g call (d.order? call) (g.perform call) := by
  cases call with
  | openPath path options place =>
    cases place with
    | false => exact .noPlace
    | true =>
      exact .withFound rfl rfl (refusing_readPath path) fun text _ =>
        h.built rfl (fun _ => Or.inl rfl) fun _ _ => h.register rfl
  | openMemory options place =>
    cases place with
    | false => exact .noPlace
    | true => exact h.built rfl (fun _ => Or.inl rfl) fun _ _ => h.register rfl
  | close database =>
    refine .releasing (fun ht => ⟨bind_find?_zero h.databases ht, decide_eq_true ht⟩) fun _ => ?_
    exact h.closing hsole database
  | put database sync key value =>
    exact h.onDatabase rfl fun id => withFound_readPut rfl fun key value => h.onStore rfl rfl
  | delete database sync key =>
    exact h.onDatabase rfl fun id => withFound_readDelete rfl fun key => h.onStore rfl rfl
  | write database sync batch =>
    exact h.onDatabase rfl fun id => h.onBatch rfl fun batch _ => h.onStore rfl rfl
  | get database snapshot key place =>
    cases place with
    | false => exact .noPlace
    | true =>
      exact h.onDatabase rfl fun id => h.onSnapshot rfl fun snapshot =>
        .withFound rfl rfl (refusing_read key .key) fun key _ => h.get rfl rfl
  | property database name place =>
    cases place with
    | false => exact .noPlace
    | true =>
      exact h.onDatabase rfl fun id =>
        .withFound rfl rfl (refusing_read name .name) fun name _ => h.property database id name
  | destroy path =>
    exact .withFound rfl rfl (refusing_readPath path) fun text _ => h.onStore rfl rfl
  | repair path =>
    exact .withFound rfl rfl (refusing_readPath path) fun text _ => h.onStore rfl rfl
  | iterate database fillCache snapshot place =>
    cases place with
    | false => exact .noPlace
    | true =>
      exact h.onDatabase rfl fun id => h.onSnapshot rfl fun snapshot =>
        h.built rfl (fun _ => Or.inr (Or.inr rfl)) fun _ _ => h.registerIterator rfl
  | seek iterator key =>
    exact .withFound rfl rfl (refusing_read key .key) fun key _ => h.position iterator (.seek key)
  | first iterator => exact h.position iterator .first
  | last iterator => exact h.position iterator .last
  | next iterator => exact h.position iterator .next
  | prev iterator => exact h.position iterator .prev
  | isValid iterator place =>
    cases place with
    | false => exact .noPlace
    | true => exact h.onIterator rfl fun child _ => h.look rfl (by rw [← h.store]; rfl) rfl
  | key iterator place =>
    cases place with
    | false => exact .refused rfl rfl
    | true => exact h.readEntry iterator _
  | value iterator place =>
    cases place with
    | false => exact .refused rfl rfl
    | true => exact h.readEntry iterator _
  | status iterator => exact h.onIterator rfl fun child _ => h.status child.thing
  | freeIterator iterator =>
    refine .releasing (fun ht => ⟨bind_find?_zero h.iterators ht, decide_eq_true ht⟩) fun _ => ?_
    exact h.onIterator rfl fun child hfind => h.freeIterator hfind
  | snapshot database place =>
    cases place with
    | false => exact .noPlace
    | true =>
      exact h.onDatabase rfl fun id =>
        h.built rfl (fun _ => Or.inr (Or.inl rfl)) fun _ _ => h.registerSnapshot rfl
  | releaseSnapshot database snapshot =>
    refine .releasing (fun ht => ⟨?_, decide_eq_true ht⟩) fun _ => h.release database snapshot
    show (d.databases.find? database).bind _ = none
    refine Option.bind_eq_none_iff.mpr fun id _ => ?_
    exact bind_find?_zero h.snapshots ht
  | createBatch place =>
    cases place with
    | false => exact .noPlace
    | true => exact h.createBatch
  | batchPut batch key value => exact h.queue batch (refusing_readPut key value)
  | batchDelete batch key => exact h.queue batch (refusing_readDelete key)
  | clearBatch batch => exact h.onBatch rfl fun batch hfind => h.modifyBatch hfind fun _ => .empty
  | countBatch batch place =>
    cases place with
    | false => exact .noPlace
    | true => exact h.onBatch rfl fun batch _ => h.look rfl rfl rfl
  | freeBatch batch =>
    refine .releasing (fun ht => ⟨bind_find?_zero h.batches ht, decide_eq_true ht⟩) fun _ => ?_
    exact h.onBatch rfl fun batch hfind => h.freeBatch hfind
  | installCallback level callback =>
    cases callback with
    | false => exact .refused rfl rfl
    | true => exact h.install level

end Desk

end OrderedStore
