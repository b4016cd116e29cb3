import OrderedStore.Proofs.Gateway.Run
import OrderedStore.Proofs.Handle.Tenure

/-!
# Where tokens come from

A call adds at most one token to a desk, and it is the one that the call returns.  So tokens
that have been taken back stay so through every run (`Attends.run`), and an iterator or a
snapshot is kept under the database token that was named by the call that returned its
token (`stems_run`).
-/

set_option autoImplicit false

namespace OrderedStore

/-- The kind of child that a call makes, and the database that it makes it through. -/
def Call.child? : Call → Option (HandleKind × Token)
  | .iterate database _ _ _ => some (.iterator, database)
  | .snapshot database _ => some (.snapshot, database)
  | _ => none

/-- The kind of child that an order makes, and the database that it makes it through. -/
def Order.child? : Order → Option (HandleKind × Token)
  | .act owner (.iterate ..) => some (.iterator, owner)
  | .act owner (.snapshot _) => some (.snapshot, owner)
  | _ => none

/-- The kind of thing that an answer hands out. -/
def Store.Answer.kind? : Store.Answer → Option HandleKind
  | .opened (.ok _) => some .database
  | .snapshot (.ok _) => some .snapshot
  | .iterator (.ok _) => some .iterator
  | _ => none

instance {s : Species} : Inhabited (Identity s) := ⟨⟨0⟩⟩

namespace Gateway

/-- In the course of a run, a call that makes a thing of the kind through the token `t` has
returned the token `u`. -/
def MadeThrough (g : Gateway) (turns : List Turn) (kind : HandleKind) (t u : Token) : Prop :=
  ∃ before call later, turns = before ++ .call call :: later ∧ call.child? = some (kind, t) ∧
    ((g.run before).serve call).2.given = some u

variable {g : Gateway} {turns : List Turn} {turn : Turn} {kind : HandleKind} {t u : Token}

theorem run_append (g : Gateway) (turns more : List Turn) :
    g.run (turns ++ more) = (g.run turns).run more := List.foldl_append

theorem madeThrough_nil : ¬ g.MadeThrough [] kind t u := by
  rintro ⟨before, call, later, hturns, _⟩
  simp at hturns

/-- What has been made in a run with one more turn was made before it or in it. -/
theorem madeThrough_append_singleton :
    g.MadeThrough (turns ++ [turn]) kind t u ↔ g.MadeThrough turns kind t u ∨
      ∃ call, turn = .call call ∧ call.child? = some (kind, t) ∧
        ((g.run turns).serve call).2.given = some u := by
  constructor
  · rintro ⟨before, call, later, hturns, hchild, hgiven⟩
    rcases List.eq_nil_or_concat later with rfl | ⟨rest, last, rfl⟩
    · obtain ⟨rfl, hlast⟩ := List.append_inj' hturns rfl
      exact Or.inr ⟨call, (List.singleton_inj.mp hlast), hchild, hgiven⟩
    · rw [List.concat_eq_append, ← List.cons_append, ← List.append_assoc] at hturns
      obtain ⟨rfl, _⟩ := List.append_inj' hturns rfl
      exact Or.inl ⟨before, call, rest, rfl, hchild, hgiven⟩
  · rintro (⟨before, call, later, rfl, hchild, hgiven⟩ | ⟨call, rfl, hchild, hgiven⟩)
    · exact ⟨before, call, later ++ [turn], by simp, hchild, hgiven⟩
    · exact ⟨turns, call, [], rfl, hchild, hgiven⟩

end Gateway

/-! ## Entries and what has been made -/

namespace Ledger

variable {α : Type} {l l' : Ledger (Child α)} {made made' new : Token → Token → Prop}

/-- Every entry was made through its owner, and every token that was made through a database
is under that database as long as it stands for something. -/
structure Stems (l : Ledger (Child α)) (made : Token → Token → Prop) : Prop where
  origin : ∀ {u : Token} {child : Child α}, (u, child) ∈ l.held → made child.owner u
  issued : ∀ {t u : Token}, made t u → u ∈ l.issued
  owner : ∀ {t u : Token} {child : Child α}, made t u → (u, child) ∈ l.held → child.owner = t

theorem stems_empty (hnone : ∀ t u, ¬ made t u) : (empty : Ledger (Child α)).Stems made where
  origin h := absurd h List.not_mem_nil
  issued h := absurd h (hnone _ _)
  owner _ h := absurd h List.not_mem_nil

theorem Stems.grows [Inhabited α] (h : l.Stems made) (hvalid : l.Valid)
    (hgrows : l.Grows l' fun u child => new child.owner u)
    (hsole : ∀ {t t' u : Token}, new t u → new t' u → t = t')
    (hiff : ∀ t u, made' t u ↔ made t u ∨ new t u) : l'.Stems made' where
  origin hmem := (hiff _ _).mpr ((hgrows.held hmem).imp_left h.origin)
  issued {t u} hmade :=
    (hgrows.issued_iff u).mpr
      (((hiff t u).mp hmade).imp h.issued fun hnew => ⟨⟨t, default⟩, hnew⟩)
  owner {t u child} hmade hmem := by
    -- A token that is given in this step has not been given before.
    have hfresh : ∀ {t : Token}, new t u → u ∉ l.issued := fun {t} hnew =>
      hgrows.fresh (v := ⟨t, child.thing⟩) hnew
    rcases (hiff t u).mp hmade with hold | hnew <;> rcases hgrows.held hmem with hheld | hgiven
    · exact h.owner hold hheld
    · exact absurd (h.issued hold) (hfresh hgiven)
    · exact absurd (hvalid.issued hheld) (hfresh hnew)
    · exact hsole hgiven hnew

/-- What was made through a token is spent once everything under that token is struck off. -/
theorem Stems.spent_strike (h : l.Stems made) {t u : Token} (hmade : made t u) :
    (l.strike fun _ child => child.owner = t).Spent u where
  issued := h.issued hmade
  vacant child hkept := by
    obtain ⟨hmem, hne⟩ := mem_strike.mp hkept
    exact of_decide_eq_false hne (h.owner hmade hmem)

/-- What was not made through the token stays. -/
theorem Stems.owner_ne (h : l.Stems made) {t u : Token} (hnot : ¬ made t u) {child : Child α}
    (hmem : (u, child) ∈ l.held) : child.owner ≠ t :=
  fun howner => hnot (howner ▸ h.origin hmem)

end Ledger

namespace Desk

variable {d d' d'' : Desk} {g : Gateway} {call : Call} {order : Order} {given : Option Token}

/-! ## Orders -/

theorem Asks.child?_eq (h : d.Asks call order) : order.child? = call.child? := by
  cases h with
  | move hmove hfind => cases call <;> first | rfl | simp [Call.move?] at hmove
  | queue hmutation hfind => cases call <;> first | rfl | simp [Call.mutation?] at hmutation
  | _ => rfl

/-- The desk after a step that has given out what `new` says: a token of a kind, with the
database that it was made through. -/
structure Grows (d d' : Desk) (new : HandleKind → Token → Token → Prop) : Prop where
  databases : d.databases.Lasts d'.databases
  iterators : d.iterators.Grows d'.iterators fun u child => new .iterator child.owner u
  snapshots : d.snapshots.Grows d'.snapshots fun u child => new .snapshot child.owner u

/-- The desk after any number of steps. -/
structure Lasts (d d' : Desk) : Prop where
  databases : d.databases.Lasts d'.databases
  iterators : d.iterators.Lasts d'.iterators
  snapshots : d.snapshots.Lasts d'.snapshots

theorem Lasts.refl (d : Desk) : d.Lasts d := ⟨.refl _, .refl _, .refl _⟩

theorem Lasts.trans (h : d.Lasts d') (h' : d'.Lasts d'') : d.Lasts d'' :=
  ⟨h.databases.trans h'.databases, h.iterators.trans h'.iterators, h.snapshots.trans h'.snapshots⟩

theorem Grows.lasts {new : HandleKind → Token → Token → Prop} (h : d.Grows d' new) : d.Lasts d' :=
  ⟨h.databases, h.iterators.lasts, h.snapshots.lasts⟩

/-- A step that gives out nothing and strikes nothing off. -/
theorem grows_of_eq {new : HandleKind → Token → Token → Prop}
    (hdatabases : d'.databases = d.databases) (hiterators : d'.iterators = d.iterators)
    (hsnapshots : d'.snapshots = d.snapshots) (hnone : ∀ kind t u, ¬ new kind t u) :
    d.Grows d' new where
  databases := by
    rw [hdatabases]
    exact .refl _
  iterators := by
    rw [hiterators]
    exact Ledger.grows_refl _ fun _ _ => hnone _ _ _
  snapshots := by
    rw [hsnapshots]
    exact Ledger.grows_refl _ fun _ _ => hnone _ _ _

/-- What is built is kept under the token that is given to the host. -/
theorem grows_settle (d : Desk) (owner : Token) (answer : Store.Answer)
    (hfresh : ∀ kind u, answer.kind? = some kind → given = some u → u ∉ d.issued kind) :
    d.Grows (d.settle owner given answer).1 fun kind t u =>
      answer.kind? = some kind ∧ t = owner ∧ given = some u := by
  have hsame : answer.kind? = none → d.Grows (d.settle owner given answer).1 fun kind t u =>
      answer.kind? = some kind ∧ t = owner ∧ given = some u := by
    intro hkind
    have hbuilt : answer.isBuilt = false := by
      cases answer with
      | opened outcome => cases outcome <;> first | rfl | simp [Store.Answer.kind?] at hkind
      | snapshot outcome => cases outcome <;> first | rfl | simp [Store.Answer.kind?] at hkind
      | iterator outcome => cases outcome <;> first | rfl | simp [Store.Answer.kind?] at hkind
      | _ => rfl
    rw [settle_of_not_built d owner given hbuilt]
    exact grows_of_eq rfl rfl rfl fun kind t u hnew => by simp [hkind] at hnew
  cases answer with
  | opened outcome =>
    cases outcome with
    | error e => exact hsame rfl
    | ok id =>
      cases given with
      | none => exact grows_of_eq rfl rfl rfl fun kind t u hnew => by simp at hnew
      | some u =>
        refine ⟨?_, Ledger.grows_refl _ ?_, Ledger.grows_refl _ ?_⟩
        · exact d.databases.lasts_give (hfresh .database u rfl rfl) id
        · simp [Store.Answer.kind?]
        · simp [Store.Answer.kind?]
  | snapshot outcome =>
    cases outcome with
    | error e => exact hsame rfl
    | ok snapshot =>
      cases given with
      | none => exact grows_of_eq rfl rfl rfl fun kind t u hnew => by simp at hnew
      | some u =>
        refine ⟨.refl _, Ledger.grows_refl _ ?_, Ledger.grows_give _ (hfresh .snapshot u rfl rfl)
          ⟨rfl, rfl, rfl⟩ ?_⟩
        · simp [Store.Answer.kind?]
        · rintro w child ⟨_, _, heq⟩
          exact (Option.some.inj heq).symm
  | iterator outcome =>
    cases outcome with
    | error e => exact hsame rfl
    | ok iterator =>
      cases given with
      | none => exact grows_of_eq rfl rfl rfl fun kind t u hnew => by simp at hnew
      | some u =>
        refine ⟨.refl _, Ledger.grows_give _ (hfresh .iterator u rfl rfl) ⟨rfl, rfl, rfl⟩ ?_,
          Ledger.grows_refl _ ?_⟩
        · rintro w child ⟨_, _, heq⟩
          exact (Option.some.inj heq).symm
        · simp [Store.Answer.kind?]
  | done outcome => exact hsame rfl
  | value outcome => exact hsame rfl
  | text text => exact hsame rfl

/-- An answer hands out what the action builds. -/
theorem kind?_of_answer {s : Store} {owner : Token} {action : Store.Action} {kind : HandleKind}
    (h : (s.perform action).2.kind? = some kind) :
    (Order.act owner action).kind? = some kind := by
  cases hanswer : (s.perform action).2 with
  | opened outcome =>
    cases outcome with
    | ok id => rw [kind?_of_opened hanswer, ← h, hanswer]; rfl
    | error e => simp [hanswer, Store.Answer.kind?] at h
  | snapshot outcome =>
    cases outcome with
    | ok snapshot => rw [kind?_of_snapshot hanswer, ← h, hanswer]; rfl
    | error e => simp [hanswer, Store.Answer.kind?] at h
  | iterator outcome =>
    cases outcome with
    | ok iterator => rw [kind?_of_iterator hanswer, ← h, hanswer]; rfl
    | error e => simp [hanswer, Store.Answer.kind?] at h
  | _ => simp [hanswer, Store.Answer.kind?] at h

theorem given_settle (d : Desk) (owner : Token) (given : Option Token) (answer : Store.Answer) :
    (d.settle owner given answer).2.given = if answer.kind?.isSome then given else none := by
  cases answer with
  | opened outcome => cases outcome <;> cases given <;> rfl
  | snapshot outcome => cases outcome <;> cases given <;> rfl
  | iterator outcome => cases outcome <;> cases given <;> rfl
  | done outcome => cases outcome <;> rfl
  | value outcome => cases outcome <;> rfl
  | text text => rfl

theorem child?_act {owner t : Token} {action : Store.Action} {kind : HandleKind}
    (hkind : kind ≠ .database) : (Order.act owner action).child? = some (kind, t) ↔
      (Order.act owner action).kind? = some kind ∧ t = owner := by
  cases action with
  | openAt | openMemory => simp [Order.child?, Order.kind?, hkind.symm]
  | _ => simp [Order.child?, Order.kind?, eq_comm]

/-- A reply gives a token for a child if the child has been made, under its owner. -/
theorem child?_and_given_iff {owner t u : Token} {action : Store.Action} {kind : HandleKind}
    (hkind : kind ≠ .database) :
    ((Order.act owner action).child? = some (kind, t) ∧
        (d.carryOut given (.act owner action)).2.given = some u) ↔
      (d.store.perform action).2.kind? = some kind ∧ t = owner ∧ given = some u := by
  have hanswer := @kind?_of_answer d.store owner action
  rw [child?_act hkind]
  show (_ ∧ (Desk.settle { d with store := (d.store.perform action).1 } owner given
    (d.store.perform action).2).2.given = some u) ↔ _
  rw [given_settle]
  generalize (d.store.perform action).2.kind? = built at hanswer
  constructor
  · rintro ⟨⟨hmakes, rfl⟩, hgiven⟩
    cases built with
    | none => simp at hgiven
    | some kind' =>
      rw [← hmakes, ← hanswer rfl]
      exact ⟨rfl, rfl, hgiven⟩
  · rintro ⟨rfl, rfl, rfl⟩
    exact ⟨⟨hanswer rfl, rfl⟩, rfl⟩

/-- What an order adds is the token that the reply gives. -/
theorem grows_carryOut (hfresh : d.Fresh order given) :
    d.Grows (d.carryOut given order).1 fun kind t u =>
      order.child? = some (kind, t) ∧ (d.carryOut given order).2.given = some u := by
  cases order with
  | act owner action =>
    have hgrows := grows_settle { d with store := (d.store.perform action).1 } owner
      (d.store.perform action).2 fun kind u hkind hgiven =>
        (hfresh kind u (kind?_of_answer hkind) hgiven).2
    exact ⟨hgrows.databases,
      hgrows.iterators.congr fun _ _ => child?_and_given_iff (by simp),
      hgrows.snapshots.congr fun _ _ => child?_and_given_iff (by simp)⟩
  | close t id =>
    exact ⟨d.databases.lasts_strike fun u _ => u = t,
      Ledger.grows_strike d.iterators (fun _ child => child.owner = t) fun _ _ hnew =>
        absurd hnew.1 (by simp [Order.child?]),
      Ledger.grows_strike d.snapshots (fun _ child => child.owner = t) fun _ _ hnew =>
        absurd hnew.1 (by simp [Order.child?])⟩
  | freeIterator t iterator =>
    exact ⟨.refl _,
      Ledger.grows_strike d.iterators (fun u _ => u = t) fun _ _ hnew =>
        absurd hnew.1 (by simp [Order.child?]),
      Ledger.grows_refl _ fun _ _ hnew => absurd hnew.1 (by simp [Order.child?])⟩
  | freeSnapshot t snapshot =>
    exact ⟨.refl _,
      Ledger.grows_refl _ fun _ _ hnew => absurd hnew.1 (by simp [Order.child?]),
      Ledger.grows_strike d.snapshots (fun u _ => u = t) fun _ _ hnew =>
        absurd hnew.1 (by simp [Order.child?])⟩
  | status iterator =>
    have hsame : (d.carryOut given (.status iterator)).1 = d :=
      settle_of_not_built d 0 none rfl
    rw [hsame]
    exact grows_of_eq rfl rfl rfl fun kind t u hnew => absurd hnew.1 (by simp [Order.child?])
  | createBatch =>
    cases given <;>
      exact grows_of_eq rfl rfl rfl fun kind t u hnew => absurd hnew.1 (by simp [Order.child?])
  | _ => exact grows_of_eq rfl rfl rfl fun kind t u hnew => absurd hnew.1 (by simp [Order.child?])

/-! ## Calls and runs -/

/-- What a call adds is the token that it returns. -/
theorem Attends.grows (h : d.Attends g) (call : Call) :
    d.Grows (d.note call (g.serve call).2) fun kind t u =>
      call.child? = some (kind, t) ∧ (g.serve call).2.given = some u := by
  unfold Desk.note
  cases horder : d.order? call with
  | some order =>
    have haccepts := h.accepts horder
    have hgrows := grows_carryOut haccepts.fresh
    rw [← haccepts.reply_eq, (asks_of_order? horder).child?_eq] at hgrows
    exact hgrows
  | none =>
    have hgiven : (g.serve call).2.given = none := by
      obtain ⟨_, ⟨_, hreply⟩ | ⟨output, failure, hreply, _⟩⟩ := h.refuses horder
      · rw [hreply]
        rfl
      · rw [hreply]
        cases output <;> rfl
    exact grows_of_eq rfl rfl rfl fun kind t u hnew => by simp [hgiven] at hnew

theorem Attends.lasts_after (h : d.Attends g) (turn : Gateway.Turn) :
    ∃ d' : Desk, d'.Attends (g.after turn) ∧ d.Lasts d' := by
  cases turn with
  | call call => exact ⟨_, h.serve call, (h.grows call).lasts⟩
  | outside v => exact ⟨_, h.outside v, .refl _, .refl _, .refl _⟩
  | sway verdicts => exact ⟨_, h.sway verdicts, .refl _, .refl _, .refl _⟩

/-- Whatever a gateway goes through, its desk goes on from what it was. -/
theorem Attends.run (h : d.Attends g) (turns : List Gateway.Turn) :
    ∃ d' : Desk, d'.Attends (g.run turns) ∧ d.Lasts d' := by
  induction turns generalizing d g with
  | nil => exact ⟨d, h, .refl d⟩
  | cons turn rest ih =>
    obtain ⟨d', hattends, hlasts⟩ := h.lasts_after turn
    obtain ⟨d'', hattends', hlasts'⟩ := ih hattends
    exact ⟨d'', hattends', hlasts.trans hlasts'⟩

/-- The children of a desk stem from the calls of a run. -/
structure Stems (d : Desk) (g : Gateway) (turns : List Gateway.Turn) : Prop where
  iterators : d.iterators.Stems (g.MadeThrough turns .iterator)
  snapshots : d.snapshots.Stems (g.MadeThrough turns .snapshot)

theorem Stems.serve {g₀ : Gateway} {turns : List Gateway.Turn} (h : d.Stems g₀ turns)
    (hattends : d.Attends (g₀.run turns)) (call : Call) :
    (d.note call ((g₀.run turns).serve call).2).Stems g₀ (turns ++ [.call call]) := by
  have hgrows := hattends.grows call
  have hiff : ∀ kind t u, g₀.MadeThrough (turns ++ [.call call]) kind t u ↔
      g₀.MadeThrough turns kind t u ∨ call.child? = some (kind, t) ∧
        ((g₀.run turns).serve call).2.given = some u := by
    intro kind t u
    rw [Gateway.madeThrough_append_singleton]
    simp
  have hsole : ∀ {kind : HandleKind} {t t' : Token}, call.child? = some (kind, t) →
      call.child? = some (kind, t') → t = t' := by
    intro kind t t' ht ht'
    simpa [ht] using ht'
  exact ⟨h.iterators.grows hattends.same.iterators.valid hgrows.iterators
      (fun hnew hnew' => hsole hnew.1 hnew'.1) (hiff .iterator),
    h.snapshots.grows hattends.same.snapshots.valid hgrows.snapshots
      (fun hnew hnew' => hsole hnew.1 hnew'.1) (hiff .snapshot)⟩

/-- A turn that is no call makes nothing, whatever happens to the store in it. -/
theorem Stems.withStore {g₀ : Gateway} {turns : List Gateway.Turn} (h : d.Stems g₀ turns)
    (s : Store) {turn : Gateway.Turn} (hturn : ∀ call, turn ≠ .call call) :
    Stems { d with store := s } g₀ (turns ++ [turn]) := by
  have hsame : ∀ kind, g₀.MadeThrough (turns ++ [turn]) kind = g₀.MadeThrough turns kind := by
    intro kind
    funext t u
    rw [Gateway.madeThrough_append_singleton]
    simp [hturn]
  refine ⟨?_, ?_⟩ <;> rw [hsame]
  · exact h.iterators
  · exact h.snapshots

/-- After every run there is a desk that attends the gateway and whose children stem from the
calls of the run. -/
theorem stems_run (v : Volume) (directives : Option String) (turns : List Gateway.Turn) :
    ∃ d : Desk, d.Attends ((Gateway.ofStore (.ofVolume v) directives).run turns) ∧
      d.Stems (Gateway.ofStore (.ofVolume v) directives) turns := by
  -- By induction from the right end, since what was made is told by the turns up to now.
  induction turns using List.reverseRecOn with
  | nil =>
    exact ⟨_, attends_ofVolume v directives,
      Ledger.stems_empty fun _ _ => Gateway.madeThrough_nil,
      Ledger.stems_empty fun _ _ => Gateway.madeThrough_nil⟩
  | append_singleton turns turn ih =>
    obtain ⟨d, hattends, hstems⟩ := ih
    rw [Gateway.run_append]
    cases turn with
    | call call => exact ⟨_, hattends.serve call, hstems.serve hattends call⟩
    | outside v => exact ⟨_, hattends.outside v, hstems.withStore _ (by simp)⟩
    | sway verdicts => exact ⟨_, hattends.sway verdicts, hstems.withStore _ (by simp)⟩

end Desk

end OrderedStore
