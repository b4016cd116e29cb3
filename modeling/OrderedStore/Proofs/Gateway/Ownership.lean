import OrderedStore.Proofs.Gateway.Run
import OrderedStore.Proofs.Store.Ownership

/-!
# Whose snapshots a gateway accepts

`Receipts` are kept from calls and replies alone: they say for each snapshot token that has
been handed out and not taken back through which database it was taken.  A gateway compares
tokens, and the store behind it compares sessions; `Receipts.Guards` says that in every state
both come to the same, and to what the receipts say.

So the store never has a reason to refuse a snapshot that the gateway has let through.
-/

set_option autoImplicit false

namespace OrderedStore

/-- The snapshots that a host has been given and that have not been released, each with the
database that it was taken through. -/
abbrev Receipts := List (Token × Token)

namespace Receipts

/-- Keeps receipts by a call and its reply.  A database that is closed takes its snapshots
with it. -/
def note (r : Receipts) : Call → Reply → Receipts
  | .snapshot database _, ⟨.token t, none⟩ => (t, database) :: r
  | .releaseSnapshot _ t, ⟨_, none⟩ => r.filter fun receipt => receipt.1 ≠ t
  | .close database, ⟨_, none⟩ => r.filter fun receipt => receipt.2 ≠ database
  | _, _ => r

end Receipts

namespace Gateway

/-- A gateway and the receipts of its host after a turn. -/
def keepReceipts (entry : Gateway × Receipts) : Turn → Gateway × Receipts
  | .call call => ((entry.1.serve call).1, entry.2.note call (entry.1.serve call).2)
  | .outside v => (entry.1.withVolume v, entry.2)
  | .sway verdicts => (entry.1.withVerdicts verdicts, entry.2)

/-- A gateway and the receipts of its host after a list of turns. -/
def keepAllReceipts (entry : Gateway × Receipts) (turns : List Turn) : Gateway × Receipts :=
  turns.foldl keepReceipts entry

end Gateway

namespace Receipts

variable {r : Receipts} {l : Ledger (Child SnapshotId)}

/-! ## Receipts and ledgers -/

/-- There is a receipt for each snapshot that a token stands for, and for nothing else. -/
def Covers (r : Receipts) (l : Ledger (Child SnapshotId)) : Prop :=
  ∀ t owner, (t, owner) ∈ r ↔ ∃ snapshot, (t, ⟨owner, snapshot⟩) ∈ l.held

theorem covers_empty : Covers [] .empty := fun _ _ =>
  ⟨fun h => absurd h List.not_mem_nil, fun ⟨_, h⟩ => absurd h List.not_mem_nil⟩

theorem Covers.give (h : r.Covers l) (t owner : Token) (snapshot : SnapshotId) :
    Covers ((t, owner) :: r) (l.give t ⟨owner, snapshot⟩) := by
  intro u owner'
  rw [List.mem_cons, h u owner', Prod.mk.injEq]
  constructor
  · rintro (⟨rfl, rfl⟩ | ⟨other, hmem⟩)
    · exact ⟨snapshot, Ledger.mem_give.mpr (Or.inr ⟨rfl, rfl⟩)⟩
    · exact ⟨other, Ledger.mem_give.mpr (Or.inl hmem)⟩
  · rintro ⟨other, hmem⟩
    rcases Ledger.mem_give.mp hmem with hold | ⟨rfl, hchild⟩
    · exact Or.inr ⟨other, hold⟩
    · exact Or.inl ⟨rfl, congrArg Child.owner hchild⟩

/-- Receipts are struck off by their tokens, as the entries of the ledger are. -/
theorem Covers.strike (h : r.Covers l) (gone : Token → Token → Bool) :
    Covers (r.filter fun receipt => !gone receipt.1 receipt.2)
      (l.strike fun t child => gone t child.owner) := by
  intro t owner
  rw [List.mem_filter, h t owner]
  constructor
  · rintro ⟨⟨snapshot, hmem⟩, hkept⟩
    exact ⟨snapshot, Ledger.mem_strike.mpr ⟨hmem, by simpa using hkept⟩⟩
  · rintro ⟨snapshot, hmem⟩
    obtain ⟨hold, hkept⟩ := Ledger.mem_strike.mp hmem
    exact ⟨⟨snapshot, hold⟩, by simpa using hkept⟩

theorem note_of_failure (r : Receipts) (call : Call) (output : Output) (failure : Failure) :
    r.note call ⟨output, some failure⟩ = r := by
  cases call <;> first | rfl | (cases output <;> rfl)

/-- Releasing the null token takes nothing back. -/
theorem note_of_idle (h : r.Covers l) (hvalid : l.Valid)
    (howner : ∀ {t : Token} {child : Child SnapshotId}, (t, child) ∈ l.held → child.owner ≠ 0)
    {call : Call} (hidle : call.isIdle = true) : r.note call ⟨.untouched, none⟩ = r := by
  have hmem : ∀ receipt ∈ r, receipt.1 ≠ 0 ∧ receipt.2 ≠ 0 := by
    rintro ⟨t, owner⟩ hreceipt
    obtain ⟨snapshot, hheld⟩ := (h t owner).mp hreceipt
    refine ⟨?_, howner hheld⟩
    rintro rfl
    exact hvalid.zero (hvalid.issued hheld)
  cases call with
  | close database =>
    obtain rfl : database = 0 := of_decide_eq_true hidle
    exact List.filter_eq_self.mpr fun receipt hreceipt =>
      decide_eq_true (hmem receipt hreceipt).2
  | releaseSnapshot database t =>
    obtain rfl : t = 0 := of_decide_eq_true hidle
    exact List.filter_eq_self.mpr fun receipt hreceipt =>
      decide_eq_true (hmem receipt hreceipt).1
  | freeIterator t => rfl
  | freeBatch t => rfl
  | _ => simp [Call.isIdle] at hidle

end Receipts

namespace Desk

variable {d : Desk} {g : Gateway} {r : Receipts} {call : Call} {order : Order}

/-! ## The ledger of snapshots -/

theorem snapshots_settle (d : Desk) (owner : Token) (given : Option Token) {answer : Store.Answer}
    (h : ∀ snapshot, answer ≠ .snapshot (.ok snapshot)) :
    (d.settle owner given answer).1.snapshots = d.snapshots := by
  cases answer with
  | snapshot outcome =>
    cases outcome with
    | ok snapshot => exact absurd rfl (h snapshot)
    | error e => rfl
  | opened outcome => cases outcome <;> cases given <;> rfl
  | iterator outcome => cases outcome <;> cases given <;> rfl
  | done outcome => cases outcome <;> rfl
  | value outcome => cases outcome <;> rfl
  | text text => rfl

theorem snapshots_act {owner : Token} {action : Store.Action} (given : Option Token)
    (hkind : (Order.act owner action).kind? ≠ some .snapshot) :
    (d.carryOut given (.act owner action)).1.snapshots = d.snapshots :=
  snapshots_settle _ owner given fun _ hanswer => hkind (kind?_of_snapshot hanswer)

/-- The receipts go on covering the ledger when a call is carried out. -/
theorem covers_carryOut (hcovers : r.Covers d.snapshots) (hasks : d.Asks call order)
    {reply : Reply} (hreply : reply = (d.carryOut reply.given order).2) :
    (r.note call reply).Covers (d.carryOut reply.given order).1.snapshots := by
  -- A call that has nothing to do with snapshots and databases leaves the receipts alone.
  have hother : ∀ {owner : Token} {action : Store.Action},
      order = .act owner action → order.kind? ≠ some .snapshot → r.note call reply = r →
      (r.note call reply).Covers (d.carryOut reply.given order).1.snapshots := by
    rintro owner action rfl hkind hnote
    rw [hnote, snapshots_act _ hkind]
    exact hcovers
  cases hasks with
  | @snapshot t id hfind =>
    have hcarry : ∀ given, d.carryOut given (.act t (.snapshot id)) =
        { d with store := (d.store.snapshot id).1 }.settle t given
          (.snapshot (d.store.snapshot id).2) := fun _ => rfl
    rw [hcarry] at hreply ⊢
    cases hsnapshot : (d.store.snapshot id).2 with
    | error e =>
      rw [hsnapshot] at hreply
      rw [hreply]
      exact hcovers
    | ok snapshot =>
      rw [hsnapshot] at hreply
      cases hgiven : reply.given with
      | none =>
        rw [hgiven] at hreply
        rw [hreply]
        exact hcovers
      | some u =>
        rw [hgiven] at hreply
        rw [hreply]
        exact hcovers.give u t snapshot
  | releaseSnapshot howner hfind =>
    rw [hreply]
    simpa [Receipts.note, carryOut] using hcovers.strike fun u _ => u = _
  | @close t id hfind =>
    rw [hreply]
    simpa [Receipts.note, carryOut] using hcovers.strike fun _ owner => owner = t
  | move hmove hfind =>
    refine hother rfl (by simp [Order.kind?]) ?_
    cases call <;> first | rfl | simp [Call.move?] at hmove
  | queue hmutation hfind =>
    have hnote : r.note call reply = r := by
      cases call <;> first | rfl | simp [Call.mutation?] at hmutation
    rw [hnote]
    exact hcovers
  | createBatch => cases hgiven : reply.given <;> exact hcovers
  | openPath | openMemory | put | delete | write | get | property | destroy | repair | iterate =>
    exact hother rfl (by simp [Order.kind?]) rfl
  | @status t child hfind =>
    show r.Covers (d.settle 0 none (.done (d.store.status child.thing))).1.snapshots
    rw [snapshots_settle]
    · exact hcovers
    · intro snapshot h
      cases h
  | _ => exact hcovers

/-! ## The errors of the store -/

theorem exists_run_settle (d : Desk) (owner : Token) (given : Option Token)
    (answer : Store.Answer) :
    ∃ actions, (d.settle owner given answer).1.store = d.store.run actions := by
  cases answer with
  | opened outcome =>
    cases outcome with
    | error e => exact ⟨[], rfl⟩
    | ok id =>
      cases given with
      | some t => exact ⟨[], rfl⟩
      | none => exact ⟨[.discard id], rfl⟩
  | snapshot outcome =>
    cases outcome with
    | error e => exact ⟨[], rfl⟩
    | ok snapshot =>
      cases given with
      | some t => exact ⟨[], rfl⟩
      | none => exact ⟨[.dropSnapshot snapshot], rfl⟩
  | iterator outcome =>
    cases outcome with
    | error e => exact ⟨[], rfl⟩
    | ok iterator =>
      cases given with
      | some t => exact ⟨[], rfl⟩
      | none => exact ⟨[.dropIterator iterator], rfl⟩
  | done outcome => cases outcome <;> exact ⟨[], rfl⟩
  | value outcome => cases outcome <;> exact ⟨[], rfl⟩
  | text text => exact ⟨[], rfl⟩

/-- Whatever an order does to the store, it does by actions. -/
theorem exists_run_carryOut (d : Desk) (given : Option Token) (order : Order) :
    ∃ actions, (d.carryOut given order).1.store = d.store.run actions := by
  cases order with
  | act owner action =>
    obtain ⟨actions, hrun⟩ := exists_run_settle
      { d with store := (d.store.perform action).1 } owner given (d.store.perform action).2
    exact ⟨action :: actions, hrun⟩
  | close database id =>
    refine ⟨d.emptying database ++ [.close id], ?_⟩
    rw [Store.run_append]
    rfl
  | freeIterator t iterator => exact ⟨[.dropIterator iterator], rfl⟩
  | freeSnapshot t snapshot => exact ⟨[.dropSnapshot snapshot], rfl⟩
  | status iterator => exact exists_run_settle d 0 none _
  | createBatch => cases given <;> exact ⟨[], rfl⟩
  | listen filter => exact ⟨[.listen filter], rfl⟩
  | _ => exact ⟨[], rfl⟩

/-- A snapshot that a call may read through belongs to the session behind the database. -/
theorem Orderly.owns_of_snapshotFor? (h : d.Orderly) {t u : Token} {id : SessionId}
    (hfind : d.databases.find? t = some id) {snapshot : SnapshotId}
    (hsnapshot : d.snapshotFor? t u = some (some snapshot)) : d.store.owns id snapshot = true := by
  unfold snapshotFor? at hsnapshot
  split at hsnapshot
  · simp at hsnapshot
  · obtain ⟨child, hchild, hown⟩ := Option.bind_eq_some_iff.mp hsnapshot
    split at hown
    · rename_i howner
      obtain rfl : child.thing = snapshot := by simpa using hown
      have hheld := h.snapshots.valid.find?_eq_some_iff.mp hchild
      obtain ⟨id', hdatabase, hid⟩ := h.snapshots.owned hheld
      rw [howner] at hdatabase
      obtain rfl := h.databases.functional hdatabase (h.databases.find?_eq_some_iff.mp hfind)
      exact Store.owner?_of_owns.mpr hid
    · simp at hown

/-- If the store fails at an order that a call asks for, the right thing was asked for. -/
theorem Orderly.rightful_carryOut (h : d.Orderly)
    (hretains : d.store.roster.Retains Store.Rightful) (hasks : d.Asks call order)
    (given : Option Token) {e : Error}
    (hfailure : (d.carryOut given order).2.failure = some (.store e)) : Store.Rightful e := by
  have hact : ∀ {owner : Token} {action : Store.Action},
      (∀ id snapshot, action.through? = some (id, snapshot) → d.store.owns id snapshot = true) →
      (d.carryOut given (.act owner action)).2.failure = some (.store e) → Store.Rightful e :=
    fun howns hfailure =>
      Store.rightful_perform h.steady.coherent hretains howns (error?_of_settle hfailure)
  cases hasks with
  | @get t u id through key k hfind hsnapshot hkey =>
    refine hact (fun id' snapshot hthrough => ?_) hfailure
    cases through with
    | none => simp [Store.Action.through?] at hthrough
    | some snapshot' =>
      obtain ⟨rfl, rfl⟩ : id = id' ∧ snapshot' = snapshot := by
        simpa [Store.Action.through?] using hthrough
      exact h.owns_of_snapshotFor? hfind hsnapshot
  | @iterate t u id through hfind hsnapshot fillCache =>
    refine hact (fun id' snapshot hthrough => ?_) hfailure
    cases through with
    | none => simp [Store.Action.through?] at hthrough
    | some snapshot' =>
      obtain ⟨rfl, rfl⟩ : id = id' ∧ snapshot' = snapshot := by
        simpa [Store.Action.through?] using hthrough
      exact h.owns_of_snapshotFor? hfind hsnapshot
  | @status t child hfind =>
    have hheld := h.iterators.valid.find?_eq_some_iff.mp hfind
    obtain ⟨id, hdatabase, howner⟩ := h.iterators.owned hheld
    obtain ⟨row, hrow, rfl⟩ := Store.row_of_owner howner
    have hfails := Store.fails_status hretains hrow (h.isOpen hdatabase)
    exact hfails e (Store.Answer.error?_done.mp (error?_of_settle hfailure))
  | openPath | openMemory | put | delete | write | property | destroy | repair | snapshot | move =>
    exact hact (by simp [Store.Action.through?]) hfailure
  | createBatch => cases given <;> simp [Desk.carryOut, handOut] at hfailure
  | _ => simp [Desk.carryOut] at hfailure

end Desk

/-! ## Calls with a snapshot -/

/-- The call wants to use a snapshot through a database, and has a place for what it gives. -/
inductive Call.Uses (database snapshot : Token) : Call → Prop where
  | get (key : Slice) : Uses database snapshot (.get database snapshot key true)
  | iterate (fillCache : Bool) : Uses database snapshot (.iterate database fillCache snapshot true)
  | release : Uses database snapshot (.releaseSnapshot database snapshot)

theorem Reply.code_eq_ownershipMismatch_iff {reply : Reply} :
    reply.code = .ownershipMismatch ↔
      reply.failure = some .foreignSnapshot ∨
        reply.failure = some (.store .snapshotOwnership) := by
  obtain ⟨output, failure⟩ := reply
  cases failure with
  | none => simp [code]
  | some failure =>
    cases failure with
    | store e => cases e <;> simp [code, Failure.code, ResultCode.ofError]
    | handle fault => cases fault <;> simp [code, Failure.code, ResultCode.ofHandleFault]
    | _ => simp [code, Failure.code]

namespace Gateway

variable {g : Gateway} {t u : Token} {id : SessionId} {child : Child SnapshotId} {call : Call}

/-- The tokens are compared, and nothing else is looked at. -/
theorem snapshotFor_of_live (hzero : u ≠ 0) (hsnapshot : g.snapshots.get u = .ok child)
    (t : Token) : g.snapshotFor t u =
      if child.owner = t then .ok (some child.thing) else .error .foreignSnapshot := by
  unfold snapshotFor find
  rw [if_neg hzero, hsnapshot]
  rfl

/-- A snapshot that was taken through another database is refused before anything is done. -/
theorem perform_of_foreign (hzero : u ≠ 0) (hdatabase : g.databases.get t = .ok id)
    (hsnapshot : g.snapshots.get u = .ok child) (howner : child.owner ≠ t)
    (huses : call.Uses t u) :
    ∃ output, g.perform call = g.refuse output .foreignSnapshot := by
  have hfind : find g.databases t = .ok id := congrArg (Except.mapError _) hdatabase
  have hfind' : find g.snapshots u = .ok child := congrArg (Except.mapError _) hsnapshot
  have hforeign := snapshotFor_of_live hzero hsnapshot t
  rw [if_neg howner] at hforeign
  cases huses with
  | get key =>
    refine ⟨.buffer none, ?_⟩
    simp only [perform, needing, if_true, withFound, hfind, hforeign]
  | iterate fillCache =>
    refine ⟨noToken, ?_⟩
    simp only [perform, needing, if_true, withFound, hfind, hforeign]
  | release =>
    refine ⟨.untouched, ?_⟩
    simp only [perform, releasing, if_neg hzero, release, withFound, hfind, hfind', if_pos howner]

theorem serve_of_foreign (hzero : u ≠ 0) (hdatabase : g.databases.get t = .ok id)
    (hsnapshot : g.snapshots.get u = .ok child) (howner : child.owner ≠ t)
    (huses : call.Uses t u) :
    (g.serve call).1 = { g with lastError := (g.serve call).2.words } ∧
      (g.serve call).2.failure = some .foreignSnapshot := by
  obtain ⟨output, hperform⟩ :=
    perform_of_foreign (g := g.clearError) hzero hdatabase hsnapshot howner huses
  rw [serve_of_words (by rw [hperform]; rfl), hperform]
  exact ⟨rfl, rfl⟩

/-! ### Through its own database -/

theorem failure_withFound_ne {α : Type} {output : Output} {found : Except Failure α}
    {go : α → Gateway × Reply} (hfound : found ≠ .error .foreignSnapshot)
    (hgo : ∀ a, (go a).2.failure ≠ some .foreignSnapshot) :
    (g.withFound output found go).2.failure ≠ some .foreignSnapshot := by
  cases found with
  | ok a => exact hgo a
  | error failure => exact fun heq => hfound (congrArg Except.error (Option.some.inj heq))

theorem failure_withStore_ne {α : Type} {output : Output} {result : Store × Except Error α}
    {go : Gateway → α → Gateway × Reply}
    (hgo : ∀ g a, (go g a).2.failure ≠ some .foreignSnapshot) :
    (g.withStore output result go).2.failure ≠ some .foreignSnapshot := by
  obtain ⟨s, outcome⟩ := result
  cases outcome with
  | ok a => exact hgo _ a
  | error e => simp [withStore, refuse]

theorem failure_registerIterator_ne (g : Gateway) (owner : Token) (iterator : IteratorId) :
    (g.registerIterator owner iterator).2.failure ≠ some .foreignSnapshot := by
  unfold registerIterator
  split <;> simp [refuse]

theorem read_ne_foreignSnapshot (slice : Slice) (argument : Argument) :
    slice.read argument ≠ .error .foreignSnapshot := by
  unfold Slice.read
  split <;> simp

/-- The gateway does not take a snapshot for another database's if it is not. -/
theorem failure_of_own (hzero : u ≠ 0) (hdatabase : g.databases.get child.owner = .ok id)
    (hsnapshot : g.snapshots.get u = .ok child) (huses : call.Uses child.owner u) :
    (g.perform call).2.failure ≠ some .foreignSnapshot := by
  have hfind : find g.databases child.owner = .ok id := congrArg (Except.mapError _) hdatabase
  have hfind' : find g.snapshots u = .ok child := congrArg (Except.mapError _) hsnapshot
  have hown := snapshotFor_of_live hzero hsnapshot child.owner
  rw [if_pos rfl] at hown
  cases huses with
  | get key =>
    simp only [perform, needing, if_true, withFound, hfind, hown]
    exact failure_withFound_ne (read_ne_foreignSnapshot key .key) fun _ =>
      failure_withStore_ne fun _ _ => nofun
  | iterate fillCache =>
    simp only [perform, needing, if_true, withFound, hfind, hown]
    exact failure_withStore_ne fun g iterator => failure_registerIterator_ne g _ iterator
  | release =>
    simp [perform, releasing, hzero, release, withFound, hfind, hfind', silently]

end Gateway

namespace Receipts

/-! ## Every state -/

variable {r : Receipts} {g : Gateway}

/-- Which snapshots a gateway accepts is told by the receipts. -/
structure Guards (r : Receipts) (g : Gateway) : Prop where
  /-- The snapshots that there are receipts for are those that are registered. -/
  live : ∀ {t owner : Token}, (t, owner) ∈ r ↔
    ∃ snapshot, g.snapshots.get t = .ok ⟨owner, snapshot⟩
  /-- The comparison of tokens accepts what the comparison of sessions accepts. -/
  agrees : ∀ {t u : Token} {id : SessionId} {child : Child SnapshotId},
    g.databases.get t = .ok id → g.snapshots.get u = .ok child →
    (child.owner = t ↔ g.store.owns id child.thing = true)
  /-- A snapshot is refused as another database's if and only if it is. -/
  mismatch_iff : ∀ {t u owner : Token} {id : SessionId} {call : Call},
    g.databases.get t = .ok id → (u, owner) ∈ r → call.Uses t u →
    ((g.serve call).2.code = .ownershipMismatch ↔ (u, t) ∉ r)
  /-- Then nothing has happened but that the words of the failure are kept. -/
  mismatch_keeps : ∀ {t u owner : Token} {id : SessionId} {call : Call},
    g.databases.get t = .ok id → (u, owner) ∈ r → call.Uses t u → (u, t) ∉ r →
    (g.serve call).1 = { g with lastError := (g.serve call).2.words }
  /-- Through its own database a snapshot can be read, -/
  get_own : ∀ {u owner : Token}, (u, owner) ∈ r →
    ∃ snapshot view, g.snapshots.get u = .ok ⟨owner, snapshot⟩ ∧
      g.store.roster.viewOf (.snapshot snapshot) = some view ∧
      ∀ {key : Slice} {contents : Bytes}, key.read .key = .ok contents →
        (g.serve (.get owner u key true)).2 = ⟨.buffer (view.get? contents), none⟩
  /-- iterators can be made through it as long as there are tokens for them, -/
  iterate_own : ∀ {u owner : Token}, (u, owner) ∈ r → ∀ fillCache failure,
    (g.serve (.iterate owner fillCache u true)).2.failure = some failure →
    failure = .handle (.exhausted .iterator)
  /-- and it can be released. -/
  release_own : ∀ {u owner : Token}, (u, owner) ∈ r →
    (g.serve (.releaseSnapshot owner u)).2 = ⟨.untouched, none⟩
  /-- Without a place for what it gives, no call looks at snapshots at all. -/
  no_place : ∀ (t u : Token) (key : Slice) (fillCache : Bool),
    (g.serve (.get t u key false)).2.code = .nullPointer ∧
      (g.serve (.iterate t fillCache u false)).2.code = .nullPointer
  /-- The store never refuses a snapshot. -/
  never_refused : ∀ call, (g.serve call).2.failure ≠ some (.store .snapshotOwnership)

end Receipts

namespace Desk

variable {d : Desk} {g : Gateway} {r : Receipts}

/-- The desk attends the gateway, and the receipts cover its snapshots. -/
structure Vouches (d : Desk) (r : Receipts) (g : Gateway) : Prop where
  attends : d.Attends g
  covers : r.Covers d.snapshots
  retains : d.store.roster.Retains Store.Rightful

theorem vouches_ofVolume (v : Volume) (directives : Option String) :
    (ofStore (.ofVolume v) directives).Vouches [] (.ofStore (.ofVolume v) directives) where
  attends := attends_ofVolume v directives
  covers := Receipts.covers_empty
  retains := Roster.retains_empty

theorem Vouches.owner_ne_zero (h : d.Vouches r g) {t : Token} {child : Child SnapshotId}
    (hheld : (t, child) ∈ d.snapshots.held) : child.owner ≠ 0 := by
  obtain ⟨id, hdatabase, _⟩ := h.attends.orderly.snapshots.owned hheld
  intro hzero
  rw [hzero] at hdatabase
  exact h.attends.orderly.databases.zero (h.attends.orderly.databases.issued hdatabase)

theorem Vouches.serve (h : d.Vouches r g) (call : Call) :
    (d.note call (g.serve call).2).Vouches (r.note call (g.serve call).2) (g.serve call).1 := by
  have hserved := h.attends.serve call
  cases horder : d.order? call with
  | some order =>
    have hnote : d.note call (g.serve call).2 = (d.carryOut (g.serve call).2.given order).1 := by
      rw [Desk.note, horder]
    obtain ⟨actions, hrun⟩ := exists_run_carryOut d (g.serve call).2.given order
    rw [hnote] at hserved ⊢
    refine ⟨hserved, ?_, ?_⟩
    · exact covers_carryOut h.covers (asks_of_order? horder) (h.attends.accepts horder).reply_eq
    · rw [hrun]
      exact Store.retains_run h.attends.orderly.steady.coherent h.retains actions
  | none =>
    have hnote : d.note call (g.serve call).2 = d := by rw [Desk.note, horder]
    rw [hnote] at hserved ⊢
    have hreceipts : r.note call (g.serve call).2 = r := by
      obtain ⟨_, ⟨hidle, hreply⟩ | ⟨output, failure, hreply, _, _⟩⟩ := h.attends.refuses horder
      · rw [hreply]
        exact Receipts.note_of_idle h.covers h.attends.orderly.snapshots.valid
          (fun hheld => h.owner_ne_zero hheld) hidle
      · rw [hreply]
        exact Receipts.note_of_failure r call output failure
    rw [hreceipts]
    exact ⟨hserved, h.covers, h.retains⟩

theorem Vouches.keepReceipts (h : d.Vouches r g) (turn : Gateway.Turn) :
    ∃ d' : Desk, d'.Vouches (Gateway.keepReceipts (g, r) turn).2
      (Gateway.keepReceipts (g, r) turn).1 := by
  cases turn with
  | call call => exact ⟨_, h.serve call⟩
  | outside v => exact ⟨_, h.attends.outside v, h.covers, h.retains⟩
  | sway verdicts => exact ⟨_, h.attends.sway verdicts, h.covers, h.retains⟩

theorem Vouches.keepAllReceipts (h : d.Vouches r g) (turns : List Gateway.Turn) :
    ∃ d' : Desk, d'.Vouches (Gateway.keepAllReceipts (g, r) turns).2
      (Gateway.keepAllReceipts (g, r) turns).1 := by
  induction turns generalizing d r g with
  | nil => exact ⟨d, h⟩
  | cons turn rest ih =>
    obtain ⟨d', hd'⟩ := h.keepReceipts turn
    exact ih hd'

/-! ## What the receipts tell -/

theorem Vouches.live (h : d.Vouches r g) {t owner : Token} :
    (t, owner) ∈ r ↔ ∃ snapshot, g.snapshots.get t = .ok ⟨owner, snapshot⟩ := by
  rw [h.covers t owner]
  exact exists_congr fun snapshot => h.attends.same.snapshots.governs.get_iff.symm

theorem Vouches.ne_zero (h : d.Vouches r g) {t owner : Token} (hmem : (t, owner) ∈ r) :
    t ≠ 0 := by
  obtain ⟨snapshot, hheld⟩ := (h.covers t owner).mp hmem
  rintro rfl
  exact h.attends.orderly.snapshots.valid.zero
    (h.attends.orderly.snapshots.valid.issued hheld)

/-- The session behind a database is open and owns the snapshots that were taken through it. -/
theorem Vouches.own (h : d.Vouches r g) {u owner : Token} {snapshot : SnapshotId}
    (hsnapshot : g.snapshots.get u = .ok ⟨owner, snapshot⟩) :
    ∃ id, g.databases.get owner = .ok id ∧ g.store.isOpen id = true ∧
      g.store.owns id snapshot = true := by
  have hheld := h.attends.same.snapshots.governs.get_iff.mp hsnapshot
  obtain ⟨id, hdatabase, howner⟩ := h.attends.orderly.snapshots.owned hheld
  refine ⟨id, h.attends.same.databases.governs.get_iff.mpr hdatabase, ?_, ?_⟩
  · exact h.attends.same.store ▸ h.attends.orderly.isOpen hdatabase
  · exact Store.owner?_of_owns.mpr (h.attends.same.store ▸ howner)

theorem Vouches.agrees (h : d.Vouches r g) {t u : Token} {id : SessionId}
    {child : Child SnapshotId} (hdatabase : g.databases.get t = .ok id)
    (hsnapshot : g.snapshots.get u = .ok child) :
    child.owner = t ↔ g.store.owns id child.thing = true := by
  obtain ⟨id', hdatabase', _, howns⟩ := h.own hsnapshot
  constructor
  · rintro rfl
    obtain rfl := Except.ok.inj (hdatabase.symm.trans hdatabase')
    exact howns
  · intro howns'
    -- A snapshot has one owner, and a session has one token.
    have howner := Store.owner?_of_owns.mp howns
    rw [Store.owner?_of_owns.mp howns'] at howner
    obtain rfl := Option.some.inj howner
    exact h.attends.orderly.sole (h.attends.same.databases.governs.get_iff.mp hdatabase)
      (h.attends.same.databases.governs.get_iff.mp hdatabase')

theorem Vouches.never_refused (h : d.Vouches r g) (call : Call) :
    (g.serve call).2.failure ≠ some (.store .snapshotOwnership) := by
  cases horder : d.order? call with
  | some order =>
    rw [(h.attends.accepts horder).reply_eq]
    intro hfailure
    exact (h.attends.orderly.rightful_carryOut h.retains (asks_of_order? horder) _
      hfailure).ne_ownership rfl
  | none =>
    obtain ⟨_, ⟨_, hreply⟩ | ⟨output, failure, hreply, _, hrefusal⟩⟩ := h.attends.refuses horder
    · rw [hreply]
      nofun
    · rw [hreply]
      intro heq
      rw [Option.some.inj heq] at hrefusal
      exact nomatch hrefusal

theorem Vouches.foreign (h : d.Vouches r g) {t u owner : Token} {id : SessionId} {call : Call}
    (hdatabase : g.databases.get t = .ok id) (hmem : (u, owner) ∈ r) (huses : call.Uses t u)
    (hforeign : (u, t) ∉ r) :
    (g.serve call).1 = { g with lastError := (g.serve call).2.words } ∧
      (g.serve call).2.failure = some .foreignSnapshot := by
  obtain ⟨snapshot, hsnapshot⟩ := h.live.mp hmem
  refine Gateway.serve_of_foreign (h.ne_zero hmem) hdatabase hsnapshot ?_ huses
  rintro rfl
  exact hforeign hmem

theorem Vouches.mismatch_iff (h : d.Vouches r g) {t u owner : Token} {id : SessionId} {call : Call}
    (hdatabase : g.databases.get t = .ok id) (hmem : (u, owner) ∈ r) (huses : call.Uses t u) :
    (g.serve call).2.code = .ownershipMismatch ↔ (u, t) ∉ r := by
  constructor
  · intro hcode hown
    obtain ⟨snapshot, hsnapshot⟩ := h.live.mp hown
    rcases Reply.code_eq_ownershipMismatch_iff.mp hcode with hfailure | hfailure
    · rw [Gateway.reply_serve] at hfailure
      have hfind : g.clearError.snapshots.get u = .ok ⟨t, snapshot⟩ := hsnapshot
      exact Gateway.failure_of_own (h.ne_zero hmem) hdatabase hfind huses hfailure
    · exact h.never_refused call hfailure
  · intro hforeign
    exact Reply.code_eq_ownershipMismatch_iff.mpr
      (Or.inl (h.foreign hdatabase hmem huses hforeign).2)

theorem Vouches.get_own (h : d.Vouches r g) {u owner : Token} (hmem : (u, owner) ∈ r) :
    ∃ snapshot view, g.snapshots.get u = .ok ⟨owner, snapshot⟩ ∧
      g.store.roster.viewOf (.snapshot snapshot) = some view ∧
      ∀ {key : Slice} {contents : Bytes}, key.read .key = .ok contents →
        (g.serve (.get owner u key true)).2 = ⟨.buffer (view.get? contents), none⟩ := by
  obtain ⟨snapshot, hsnapshot⟩ := h.live.mp hmem
  obtain ⟨id, hdatabase, hopen, howns⟩ := h.own hsnapshot
  have hcoherent : g.store.roster.Coherent :=
    h.attends.same.store ▸ h.attends.orderly.steady.coherent
  obtain ⟨view, hview, hget⟩ := Store.get_of_owns hcoherent hopen howns
  refine ⟨snapshot, view, hsnapshot, hview, fun {key contents} hkey => ?_⟩
  have hfind : Gateway.find g.clearError.databases owner = .ok id :=
    congrArg (Except.mapError _) hdatabase
  have hown := Gateway.snapshotFor_of_live (g := g.clearError) (h.ne_zero hmem) hsnapshot owner
  rw [if_pos rfl] at hown
  have hread : g.clearError.store.get id (some snapshot) contents =
      (g.store, .ok (view.get? contents)) := hget contents
  rw [Gateway.reply_serve]
  simp only [Gateway.perform, Gateway.needing, if_true, Gateway.withFound, hfind, hown, hkey,
    Gateway.withStore, hread]

theorem Vouches.iterate_own (h : d.Vouches r g) {u owner : Token} (hmem : (u, owner) ∈ r)
    (fillCache : Bool) (failure : Failure)
    (hfailure : (g.serve (.iterate owner fillCache u true)).2.failure = some failure) :
    failure = .handle (.exhausted .iterator) := by
  obtain ⟨snapshot, hsnapshot⟩ := h.live.mp hmem
  obtain ⟨id, hdatabase, hopen, howns⟩ := h.own hsnapshot
  have hcoherent : g.store.roster.Coherent :=
    h.attends.same.store ▸ h.attends.orderly.steady.coherent
  obtain ⟨_, iterator, _, hiterate, _⟩ := Store.iterate_of_owns hcoherent hopen howns
  have hfind : Gateway.find g.clearError.databases owner = .ok id :=
    congrArg (Except.mapError _) hdatabase
  have hown := Gateway.snapshotFor_of_live (g := g.clearError) (h.ne_zero hmem) hsnapshot owner
  rw [if_pos rfl] at hown
  have hmade : (g.clearError.store.iterate id (some snapshot)).2 = .ok iterator := hiterate
  rw [Gateway.reply_serve] at hfailure
  simp only [Gateway.perform, Gateway.needing, if_true, Gateway.withFound, hfind, hown,
    Gateway.withStore, hmade, Gateway.registerIterator] at hfailure
  cases hinsert : (g.iterators.insert ⟨owner, iterator⟩).2 with
  | ok t =>
    have hpair : g.clearError.iterators.insert ⟨owner, iterator⟩ =
        ((g.iterators.insert ⟨owner, iterator⟩).1, .ok t) := Prod.ext rfl hinsert
    simp [hpair] at hfailure
  | error fault =>
    have hpair : g.clearError.iterators.insert ⟨owner, iterator⟩ =
        ((g.iterators.insert ⟨owner, iterator⟩).1, .error fault) := Prod.ext rfl hinsert
    have hfault := (h.attends.same.iterators.governs.insert_exhausted hinsert).1
    simp only [hpair, Gateway.refuse, Option.some.injEq] at hfailure
    rw [← hfailure, hfault]

theorem Vouches.release_own (h : d.Vouches r g) {u owner : Token} (hmem : (u, owner) ∈ r) :
    (g.serve (.releaseSnapshot owner u)).2 = ⟨.untouched, none⟩ := by
  obtain ⟨snapshot, hsnapshot⟩ := h.live.mp hmem
  obtain ⟨id, hdatabase, _, _⟩ := h.own hsnapshot
  have hfind : Gateway.find g.clearError.databases owner = .ok id :=
    congrArg (Except.mapError _) hdatabase
  have hfind' : Gateway.find g.clearError.snapshots u = .ok ⟨owner, snapshot⟩ :=
    congrArg (Except.mapError _) hsnapshot
  rw [Gateway.reply_serve]
  simp [Gateway.perform, Gateway.releasing, h.ne_zero hmem, Gateway.release, Gateway.withFound,
    hfind, hfind', Gateway.silently]

theorem Vouches.guards (h : d.Vouches r g) : r.Guards g where
  live := h.live
  agrees := h.agrees
  mismatch_iff := h.mismatch_iff
  mismatch_keeps hdatabase hmem huses hforeign := (h.foreign hdatabase hmem huses hforeign).1
  get_own := h.get_own
  iterate_own hmem := h.iterate_own hmem
  release_own := h.release_own
  no_place t u key fillCache := by
    rw [Gateway.reply_serve, Gateway.reply_serve]
    exact ⟨rfl, rfl⟩
  never_refused := h.never_refused

end Desk

/-- Whoever opens, closes and takes what, over any files: sessions accept the snapshots that
they have made and no others, gateways those that were taken through the same database and no
others, and the two agree. -/
theorem ownership_exact (v : Volume) (directives : Option String) :
    (∀ events : List Store.Happening,
        (Store.followAll (.ofVolume v, []) events).2.Decides
          (Store.followAll (.ofVolume v, []) events).1) ∧
      ∀ turns : List Gateway.Turn,
        (Gateway.keepAllReceipts (.ofStore (.ofVolume v) directives, []) turns).2.Guards
          (Gateway.keepAllReceipts (.ofStore (.ofVolume v) directives, []) turns).1 := by
  constructor
  · intro events
    obtain ⟨hcoherent, hlists⟩ := Store.lists_ofVolume v events
    exact hlists.decides hcoherent
  · intro turns
    obtain ⟨d, hvouches⟩ := (Desk.vouches_ofVolume v directives).keepAllReceipts turns
    exact hvouches.guards

/-- The place for the output has to be there for that: a read without one is refused before it
is known whose the snapshot is. -/
theorem ownershipMismatch_needs_place :
    ¬ ∀ (turns : List Gateway.Turn) (t u owner : Token) (id : SessionId) (key : Slice)
      (place : Bool),
      let entry := Gateway.keepAllReceipts (.ofStore (.ofVolume .empty) none, []) turns
      entry.1.databases.get t = .ok id → (u, owner) ∈ entry.2 →
        ((entry.1.serve (.get t u key place)).2.code = .ownershipMismatch ↔
          (u, t) ∉ entry.2) := by
  intro h
  -- Two databases in memory, and a snapshot of the first that is read through the second.
  have hread := h
    [.call (.openMemory none true), .call (.openMemory none true),
      .call (.snapshot (.make .database 0 0) true)]
    (.make .database 0 1) (.make .snapshot 0 0) (.make .database 0 0) ⟨1⟩ (.bytes []) false
    rfl (by decide +kernel)
  have hcode := hread.mpr (by decide +kernel)
  exact absurd hcode (by decide +kernel)

end OrderedStore
