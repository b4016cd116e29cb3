import OrderedStore.Proofs.Engine
import OrderedStore.Proofs.Gateway.Custody
import OrderedStore.Proofs.Gateway.Rejection
import OrderedStore.Proofs.Store.Confined

/-!
# What closing a database does, and what it leaves

Closing through a live token takes that token back, and the tokens of the iterators and
snapshots that calls have made through it.  Nothing else becomes of anything that a token
stands for (`Gateway.ClosedOff`), and what has been taken back is refused for ever, also when
its place in the registry has been given to something else.

`close_exact` says so of every state that a gateway can come to and of every token: a null
token is closed already, and any other one that is no database is refused.
-/

set_option autoImplicit false

namespace OrderedStore

theorem Engine.contents_release (v : Volume) (engine : Engine) (file : FileId) :
    (engine.release v).contents file = v.contents file := by
  unfold Engine.release
  cases engine.home with
  | none => rfl
  | some home =>
    show Volume.contents (Volume.setLocked (v.setLocked home.data false) _ false) file = _
    rw [Volume.contents_setLocked, Volume.contents_setLocked]

namespace Gateway

/-- A gateway and what it has become by closing the session of the token `t`, where `made` says
which tokens were given out for things made through `t`. -/
structure ClosedOff (g g' : Gateway) (made : HandleKind → Token → Prop) (t : Token)
    (id : SessionId) (session : Session) : Prop where
  /-- Among the tokens of databases only `t` is taken back. -/
  database : ∀ u, g'.databases.get u =
    if u = t then .error (.stale .database) else g.databases.get u
  /-- Among those of iterators only what was made through `t` is. -/
  iterator_gone : ∀ {u : Token}, made .iterator u → g'.iterators.get u = .error (.stale .iterator)
  iterator_kept : ∀ {u : Token}, ¬ made .iterator u → g'.iterators.get u = g.iterators.get u
  /-- So it is among those of snapshots. -/
  snapshot_gone : ∀ {u : Token}, made .snapshot u → g'.snapshots.get u = .error (.stale .snapshot)
  snapshot_kept : ∀ {u : Token}, ¬ made .snapshot u → g'.snapshots.get u = g.snapshots.get u
  batch : ∀ u, g'.batches.get u = g.batches.get u
  /-- The session is closed, and every other one that a token stands for is as before. -/
  session_closed : g'.store.isOpen id = false
  session_same : ∀ {u : Token} {other : SessionId}, g'.databases.get u = .ok other →
    g'.store.sessions.get? other = g.store.sessions.get? other
  /-- So is every iterator, with the view that it reads. -/
  iterator_same : ∀ {u : Token} {child : Child IteratorId}, g'.iterators.get u = .ok child →
    g'.store.iterators.get? child.thing = g.store.iterators.get? child.thing ∧
      g'.store.roster.viewOf (.iterator child.thing) = g.store.roster.viewOf (.iterator child.thing)
  /-- So is every snapshot. -/
  snapshot_same : ∀ {u : Token} {child : Child SnapshotId}, g'.snapshots.get u = .ok child →
    g'.store.snapshots.get? child.thing = g.store.snapshots.get? child.thing ∧
      g'.store.roster.viewOf (.snapshot child.thing) = g.store.roster.viewOf (.snapshot child.thing)
  /-- All that happens to files is that the locks of the session are let go. -/
  volume : g'.store.volume = session.engine.release g.store.volume
  contents : ∀ file, g'.store.volume.contents file = g.store.volume.contents file
  /-- Whatever comes later, the tokens that were taken back stand for nothing. -/
  unknown : ∀ (later : List Turn) {u : Token}, u = t ∨ made .iterator u ∨ made .snapshot u →
    (g'.run later).Unknown u
  /-- So every call that looks one of them up is refused. -/
  rejected : ∀ (later : List Turn) {u : Token}, u = t ∨ made .iterator u ∨ made .snapshot u →
    ∀ call : Call, u ∈ call.tokens → 0 ∉ call.tokens → call.looksUp = true →
      ((g'.run later).serve call).2.code = .invalidHandle
  /-- A call that looks none up is the release of the null snapshot, and it succeeds. -/
  exempt : ∀ (later : List Turn) (u : Token),
    ((g'.run later).serve (.releaseSnapshot u 0)).2 = ⟨.untouched, none⟩

end Gateway

namespace Ledger.Describes

variable {α : Type} {l : Ledger α} {kind : HandleKind} {r r' : Registry α} {u : Token}
  {gone : Token → α → Bool}

/-- A token that is not struck off finds what it found. -/
theorem get_strike (h : l.Describes kind r) (h' : (l.strike gone).Describes kind r')
    (hkept : ∀ v, (u, v) ∈ l.held → gone u v = false) : r'.get u = r.get u := by
  have hfind : (l.strike gone).find? u = l.find? u := by
    rw [h.valid.find?_strike]
    cases hv : l.find? u with
    | none => rfl
    | some v =>
      rw [Option.filter_some, hkept v (h.valid.find?_eq_some_iff.mp hv)]
      rfl
  rw [h'.get_eq, hfind, h.get_eq]

end Ledger.Describes

namespace Desk

variable {d : Desk} {g : Gateway} {t : Token} {id : SessionId} {session : Session}

/-! ## The store -/

/-- Everything that was made through a token belongs to the session of the token. -/
theorem Minds.owner?_of_madeThrough {α : Type} {child : α → Borrower} {l : Ledger (Child α)}
    {databases : Ledger SessionId} {r : Roster} (h : Minds child l databases r)
    (hvalid : databases.Valid) (hheld : (t, id) ∈ databases.held) {thing : α}
    (hmade : thing ∈ l.madeThrough t) : r.owner? (child thing) = some id := by
  obtain ⟨u, hmem⟩ := Ledger.mem_madeThrough.mp hmade
  obtain ⟨id', hheld', howner⟩ := h.owned hmem
  rw [howner, hvalid.functional hheld' hheld]

/-- What was not made through a token belongs to another session. -/
theorem Minds.owner?_ne {α : Type} {child : α → Borrower} {l : Ledger (Child α)}
    {databases : Ledger SessionId} {r : Roster} (h : Minds child l databases r)
    (hsole : ∀ {u : Token}, (u, id) ∈ databases.held → u = t) {u : Token} {entry : Child α}
    (hmem : (u, entry) ∈ l.held) (hne : entry.owner ≠ t) :
    r.owner? (child entry.thing) ≠ some id := by
  obtain ⟨id', hheld', howner⟩ := h.owned hmem
  rw [howner]
  intro heq
  exact hne (hsole (Option.some.inj heq ▸ hheld'))

theorem Orderly.frees_emptying (h : d.Orderly) (hheld : (t, id) ∈ d.databases.held) :
    d.store.Frees (d.store.run (d.emptying t)) id := by
  unfold emptying
  rw [Store.run_append, Store.run_append]
  have hreported : d.store.Frees (d.store.run (d.leftOpen t)) id := by
    unfold leftOpen
    simp only
    split
    · exact .refl _ _
    · exact ⟨.refl _ _, fun _ => rfl, rfl⟩
  have hiterators := Store.frees_run .iterator .dropIterator
    (fun hcoherent howner => Store.frees_dropIterator hcoherent howner)
    (Store.coherent_run h.steady.coherent (d.leftOpen t)) fun iterator hmade other hother =>
      Option.some.inj ((hreported.confined.owner hother).symm.trans
        (h.iterators.owner?_of_madeThrough h.databases hheld hmade))
  have hcleared := hreported.trans hiterators
  have hsnapshots := Store.frees_run .snapshot .dropSnapshot
    (fun hcoherent howner => Store.frees_dropSnapshot hcoherent howner)
    (Store.coherent_run (Store.coherent_run h.steady.coherent (d.leftOpen t)) _)
    fun snapshot hmade other hother =>
      Option.some.inj ((hcleared.confined.owner hother).symm.trans
        (h.snapshots.owner?_of_madeThrough h.databases hheld hmade))
  exact hcleared.trans hsnapshots

/-- Nothing becomes of what belongs to other sessions. -/
theorem Orderly.confined_close (h : d.Orderly) (hheld : (t, id) ∈ d.databases.held) :
    d.store.roster.Confined (d.carryOut none (.close t id)).1.store.roster id := by
  have hclears := h.clears_emptying t
  have hopen : (d.store.run (d.emptying t)).isOpen id = true := by
    rw [hclears.isOpen]
    exact h.isOpen hheld
  exact (h.frees_emptying hheld).confined.trans
    (Store.confined_close hclears.steady.coherent hopen)

/-! ## The gateway -/

/-- A database whose token is live is closed, and the desk goes on without it. -/
theorem Attends.serve_close (h : d.Attends g) (hheld : (t, id) ∈ d.databases.held) :
    (g.serve (.close t)).2 = ⟨.untouched, none⟩ ∧
      (d.carryOut none (.close t id)).1.Attends (g.serve (.close t)).1 := by
  have horder : d.order? (.close t) = some (.close t id) := by
    show (d.databases.find? t).bind _ = _
    rw [h.orderly.databases.find?_eq_some_iff.mpr hheld]
    rfl
  have hattends := h.serve (.close t)
  unfold Desk.note at hattends
  rw [horder] at hattends
  exact ⟨(h.accepts horder).reply_eq, hattends⟩

theorem Attends.closedOff {g₀ : Gateway} {turns : List Gateway.Turn} (h : d.Attends g)
    (hstems : d.Stems g₀ turns) (hheld : (t, id) ∈ d.databases.held)
    (hsession : g.store.sessions.get? id = some session) :
    g.ClosedOff (g.serve (.close t)).1 (fun kind u => g₀.MadeThrough turns kind t u) t id
      session := by
  have hafter := (h.serve_close hheld).2
  have hconfined := h.orderly.confined_close hheld
  have hvolume := (h.orderly.frees_emptying hheld).volume_close (h.same.store ▸ hsession)
  have hsole : ∀ {u : Token}, (u, id) ∈ d.databases.held → u = t := h.orderly.sole hheld
  generalize (g.serve (.close t)).1 = g' at hafter ⊢
  -- The desk's store is the gateway's, and its ledgers are those from before with some struck off.
  rw [h.same.store, hafter.same.store] at hconfined
  have hdatabases : (d.databases.strike fun u _ => u = t).Describes .database g'.databases :=
    hafter.same.databases
  have hiterators : (d.iterators.strike fun _ child => child.owner = t).Describes .iterator
    g'.iterators := hafter.same.iterators
  have hsnapshots : (d.snapshots.strike fun _ child => child.owner = t).Describes .snapshot
    g'.snapshots := hafter.same.snapshots
  have hspent : (d.databases.strike fun u _ => u = t).Spent t :=
    h.orderly.databases.spent_strike hheld (decide_eq_true rfl)
  have hfiles : g'.store.volume = session.engine.release g.store.volume := by
    rw [← hafter.same.store, ← h.same.store]
    exact hvolume
  have hunknown : ∀ (later : List Gateway.Turn) {u : Token},
      (u = t ∨ g₀.MadeThrough turns .iterator t u ∨ g₀.MadeThrough turns .snapshot t u) →
        (g'.run later).Unknown u := by
    intro later u hu
    obtain ⟨d', hattends, hlasts⟩ := hafter.run later
    refine hattends.unknown_of_spent ?_
    rcases hu with rfl | hmade | hmade
    · exact Or.inl (hspent.lasts hlasts.databases)
    · exact Or.inr (Or.inl ((hstems.iterators.spent_strike hmade).lasts hlasts.iterators))
    · exact Or.inr (Or.inr ((hstems.snapshots.spent_strike hmade).lasts hlasts.snapshots))
  constructor
  case database =>
    intro u
    split
    · rename_i heq
      rw [heq]
      exact hdatabases.get_of_spent hspent
    · rename_i hne
      exact h.same.databases.get_strike hdatabases fun _ _ => decide_eq_false hne
  case iterator_gone =>
    intro u hmade
    exact hiterators.get_of_spent (hstems.iterators.spent_strike hmade)
  case iterator_kept =>
    intro u hnot
    exact h.same.iterators.get_strike hiterators fun _ hmem =>
      decide_eq_false (hstems.iterators.owner_ne hnot hmem)
  case snapshot_gone =>
    intro u hmade
    exact hsnapshots.get_of_spent (hstems.snapshots.spent_strike hmade)
  case snapshot_kept =>
    intro u hnot
    exact h.same.snapshots.get_strike hsnapshots fun _ hmem =>
      decide_eq_false (hstems.snapshots.owner_ne hnot hmem)
  case batch =>
    intro u
    rw [hafter.same.batches.get_eq, h.same.batches.get_eq]
    rfl
  case session_closed =>
    rw [← hafter.same.store]
    show ((d.store.run (d.emptying t)).close id).roster.isOpen id = false
    rw [Store.roster_close, Roster.isOpen_endSession, if_pos rfl]
  case session_same =>
    intro u other hget
    obtain ⟨hmem, hne⟩ := Ledger.mem_strike.mp (hdatabases.governs.get_iff.mp hget)
    refine hconfined.session ?_
    rintro rfl
    exact of_decide_eq_false hne (hsole hmem)
  case iterator_same =>
    intro u child hget
    obtain ⟨hmem, hne⟩ := Ledger.mem_strike.mp (hiterators.governs.get_iff.mp hget)
    have howner := h.orderly.iterators.owner?_ne hsole hmem (of_decide_eq_false hne)
    rw [h.same.store] at howner
    exact ⟨hconfined.iterator howner, hconfined.view howner⟩
  case snapshot_same =>
    intro u child hget
    obtain ⟨hmem, hne⟩ := Ledger.mem_strike.mp (hsnapshots.governs.get_iff.mp hget)
    have howner := h.orderly.snapshots.owner?_ne hsole hmem (of_decide_eq_false hne)
    rw [h.same.store] at howner
    exact ⟨hconfined.snapshot howner, hconfined.view howner⟩
  case volume => exact hfiles
  case contents =>
    intro file
    rw [hfiles]
    exact session.engine.contents_release g.store.volume file
  case unknown => exact hunknown
  case rejected =>
    intro later u hu call hmem hnull hlooks
    exact Gateway.code_serve_of_unknown (hunknown later hu) hmem hnull hlooks
  case exempt =>
    intro later u
    rw [Gateway.serve_releaseSnapshot_zero]

/-- A token that is no database is refused. -/
theorem Attends.serve_close_of_vacant (h : d.Attends g) (ht : t ≠ 0)
    (hvacant : ∀ id, g.databases.get t ≠ .ok id) :
    (g.serve (.close t)).2.code = .invalidHandle ∧
      (g.serve (.close t)).1 = { g with lastError := (g.serve (.close t)).2.words } := by
  constructor
  · rw [Gateway.reply_serve, Gateway.perform, Gateway.releasing_of_ne_zero ht]
    exact Gateway.code_close_of_vacant ht hvacant
  · refine (h.refuses ?_).1
    show (d.databases.find? t).bind _ = none
    rw [h.orderly.databases.find?_eq_none_iff.mpr fun id hmem =>
      hvacant id (h.same.databases.governs.get_iff.mpr hmem)]
    rfl

end Desk

namespace Gateway

/-- What closing does in every state that a gateway comes to, over any files and through any
calls, and with every token: a live one is closed off, a null one is closed already, and any
other one is refused. -/
theorem close_exact (v : Volume) (directives : Option String) (turns : List Turn) (t : Token) :
    let g := (ofStore (.ofVolume v) directives).run turns
    (∀ id, g.databases.get t = .ok id →
      (g.serve (.close t)).2 = ⟨.untouched, none⟩ ∧
        ∃ session, g.store.sessions.get? id = some session ∧
          g.ClosedOff (g.serve (.close t)).1
            (fun kind u => (ofStore (.ofVolume v) directives).MadeThrough turns kind t u) t id
            session) ∧
      (t = 0 → g.serve (.close t) = ({ g with lastError := none }, ⟨.untouched, none⟩)) ∧
      (t ≠ 0 → (∀ id, g.databases.get t ≠ .ok id) →
        (g.serve (.close t)).2.code = .invalidHandle ∧
          (g.serve (.close t)).1 = { g with lastError := (g.serve (.close t)).2.words }) := by
  intro g
  obtain ⟨d, hattends, hstems⟩ := Desk.stems_run v directives turns
  refine ⟨fun id hget => ?_, ?_, fun ht hvacant => hattends.serve_close_of_vacant ht hvacant⟩
  · have hheld := hattends.same.databases.governs.get_iff.mp hget
    obtain ⟨session, hsession, _⟩ := hattends.counters hheld
    exact ⟨(hattends.serve_close hheld).1, session, hsession,
      hattends.closedOff hstems hheld hsession⟩
  · rintro rfl
    rfl

/-- The theorem on a database with an iterator that is closed next to another one.  After a
new database and a new iterator have been given the places of the old ones, the old tokens
are refused, and the iterator of the other database is where it was. -/
theorem close_exact_beside_another :
    let turns : List Turn := [.call (.openMemory none true), .call (.openMemory none true),
      .call (.put (.make .database 0 1) false (.bytes [97]) (.bytes [98])),
      .call (.iterate (.make .database 0 0) true 0 true),
      .call (.iterate (.make .database 0 1) true 0 true), .call (.first (.make .iterator 0 1))]
    let g := (ofStore (.ofVolume .empty) none).run turns
    let g' := (g.serve (.close (.make .database 0 0))).1
    let later := g'.run [.call (.openMemory none true),
      .call (.iterate (.make .database 1 0) true 0 true)]
    (later.serve (.put (.make .database 0 0) false (.bytes [97]) (.bytes [98]))).2.code =
        .invalidHandle ∧
      (later.serve (.first (.make .iterator 0 0))).2.code = .invalidHandle ∧
      (later.serve (.first (.make .iterator 1 0))).2.code = .ok ∧
      g'.iterators.get (.make .iterator 0 1) = g.iterators.get (.make .iterator 0 1) ∧
      g'.store.entry? ⟨1⟩ = some ([97], [98]) := by
  intro turns g g' later
  have hget : g.databases.get (.make .database 0 0) = .ok ⟨0⟩ := by decide +kernel
  obtain ⟨_, session, _, hclosed⟩ := (close_exact .empty none turns _).1 _ hget
  have hmade : (ofStore (.ofVolume .empty) none).MadeThrough turns .iterator
      (.make .database 0 0) (.make .iterator 0 0) :=
    ⟨turns.take 3, .iterate (.make .database 0 0) true 0 true, turns.drop 4, rfl, rfl,
      by decide +kernel⟩
  refine ⟨hclosed.rejected _ (Or.inl rfl) _ ?_ ?_ rfl,
    hclosed.rejected _ (Or.inr (Or.inl hmade)) _ ?_ ?_ rfl, ?_, ?_, ?_⟩
  all_goals decide +kernel

/-- The release of the null snapshot is a call that names a closed database and succeeds. -/
theorem exists_call_not_rejected :
    let g := (ofStore (.ofVolume .empty) none).run [.call (.openMemory none true)]
    let t := Token.make .database 0 0
    (g.serve (.close t)).2.code = .ok ∧
      ¬ ∀ call : Call, t ∈ call.tokens → call.looksUp = true →
        ((g.serve (.close t)).1.serve call).2.code = .invalidHandle := by
  intro g t
  refine ⟨by decide +kernel, fun hall => ?_⟩
  have hcode := hall (.releaseSnapshot t 0) List.mem_cons_self rfl
  exact absurd hcode (by decide +kernel)

end Gateway

end OrderedStore
