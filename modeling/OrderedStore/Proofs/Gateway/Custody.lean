import OrderedStore.Proofs.Gateway.Run
import OrderedStore.Proofs.Store.Counters

/-!
# No child is without its database

`children_tended` says of every state that a gateway can come to, whatever hosts call and
whatever becomes of the files: each iterator and snapshot that a token stands for was made
through a token that is live, by the session behind it, and each session counts what was
made through its token.

From this it follows that no call ever fails because something is closed, that a database
that is closed has no other holder, and that no session closes with children left.
-/

set_option autoImplicit false

namespace OrderedStore

namespace Gateway

/-- The iterators that were made through a token. -/
def iteratorsThrough (g : Gateway) (t : Token) : Nat :=
  (g.iterators.matching fun child => child.owner = t).length

/-- The snapshots that were made through a token. -/
def snapshotsThrough (g : Gateway) (t : Token) : Nat :=
  (g.snapshots.matching fun child => child.owner = t).length

/-- Every child has its database, and every database knows of its children. -/
structure Tended (g : Gateway) : Prop where
  /-- An iterator was made by the session behind a live token. -/
  iterator_owner : ∀ {t : Token} {child : Child IteratorId}, g.iterators.get t = .ok child →
    ∃ id row, g.databases.get child.owner = .ok id ∧ g.store.isOpen id = true ∧
      g.store.iterators.get? child.thing = some row ∧ row.owner = id
  /-- So was a snapshot. -/
  snapshot_owner : ∀ {t : Token} {child : Child SnapshotId}, g.snapshots.get t = .ok child →
    ∃ id row, g.databases.get child.owner = .ok id ∧ g.store.isOpen id = true ∧
      g.store.snapshots.get? child.thing = some row ∧ row.owner = id
  /-- The session behind a live token counts what was made through the token. -/
  counters : ∀ {t : Token} {id : SessionId}, g.databases.get t = .ok id →
    ∃ session, g.store.sessions.get? id = some session ∧
      session.liveIterators = g.iteratorsThrough t ∧
      session.liveSnapshots = g.snapshotsThrough t
  /-- These are the numbers in the summary that the host can ask for. -/
  stats_shown : ∀ {t : Token} {text : Bytes},
    (g.serve (.property t (.bytes (utf8 Property.stats.name)) true)).2.output =
      .buffer (some text) →
    ∃ session entries size, text = utf8 (Session.stats session entries size) ∧
      session.liveIterators = g.iteratorsThrough t ∧
      session.liveSnapshots = g.snapshotsThrough t
  /-- No call fails because something is closed. -/
  never_closed : ∀ call, (g.serve call).2.code ≠ .closed
  /-- Once its token is taken away nobody holds a session, so closing is never put off. -/
  sole_holder : ∀ {t : Token} {id : SessionId} {databases : Registry SessionId},
    g.databases.remove t = (databases, .ok id) →
    databases.matching (fun other => other = id) = []
  /-- No session has ever warned of children, revoked their views or been left open. -/
  nothing_left : ∀ event ∈ g.store.journal, event.notice.isLeftover = false

end Gateway

namespace Desk

variable {d : Desk} {g : Gateway}

/-! ## Counting -/

section Count

variable {α : Type} {child : α → Borrower} {l : Ledger (Child α)}
  {databases : Ledger SessionId} {r : Roster} {t : Token} {id : SessionId}

theorem Minds.nodup_madeThrough (h : Minds child l databases r) (t : Token) :
    (l.madeThrough t).Nodup := by
  have hperm := List.mergeSort_perm l.held fun a b => decide (a.1.place ≤ b.1.place)
  have hnodup : l.inOrder.Nodup := hperm.nodup_iff.mpr h.valid.nodup.of_map
  refine List.Nodup.map_on ?_ (hnodup.filter _)
  rintro ⟨u, a⟩ ha ⟨u', b⟩ hb hthing
  have ha' := hperm.mem_iff.mp (List.mem_filter.mp ha).1
  have hb' := hperm.mem_iff.mp (List.mem_filter.mp hb).1
  obtain rfl := h.sole ha' hb' hthing
  rw [h.valid.functional ha' hb']

/-- What was made through a token is what belongs to the session behind it. -/
theorem Minds.mem_madeThrough_iff (h : Minds child l databases r)
    (hsole : ∀ {t u : Token} {id : SessionId}, (t, id) ∈ databases.held →
      (u, id) ∈ databases.held → u = t)
    (hvalid : databases.Valid) (hheld : (t, id) ∈ databases.held) {thing : α} :
    thing ∈ l.madeThrough t ↔ r.owner? (child thing) = some id := by
  rw [Ledger.mem_madeThrough]
  constructor
  · rintro ⟨u, hmem⟩
    obtain ⟨id', hheld', howner⟩ := h.owned hmem
    rw [howner, hvalid.functional hheld' hheld]
  · intro howner
    obtain ⟨u, owner, hmem⟩ := h.registered howner
    obtain ⟨id', hheld', howner'⟩ := h.owned hmem
    rw [howner] at howner'
    obtain rfl := Option.some.inj howner'
    obtain rfl := hsole hheld hheld'
    exact ⟨u, hmem⟩

end Count

theorem length_madeThrough {α : Type} {l : Ledger (Child α)} {kind : HandleKind}
    {r : Registry (Child α)} (h : l.Describes kind r) (t : Token) :
    (l.madeThrough t).length = (r.matching fun child => child.owner = t).length := by
  rw [madeThrough_eq h, List.length_map, Registry.length_removeWhere]

theorem Attends.counters (h : d.Attends g) {t : Token} {id : SessionId}
    (hheld : (t, id) ∈ d.databases.held) :
    ∃ session, g.store.sessions.get? id = some session ∧
      session.liveIterators = g.iteratorsThrough t ∧
      session.liveSnapshots = g.snapshotsThrough t := by
  have horderly := h.orderly
  have hcoherent := horderly.steady.coherent
  obtain ⟨session, hsession⟩ := Store.isOpen_iff_session.mp (horderly.isOpen hheld)
  have hcounters : d.store.roster.counters? id =
      some (session.liveSnapshots, session.liveIterators) := by
    show (d.store.sessions.get? id).map _ = _
    rw [hsession]
    rfl
  obtain ⟨hsnapshots, hiterators⟩ := Prod.mk.inj (hcoherent.counted hcounters)
  -- The rows of the store with this owner and the entries under this token are one to one.
  have hmadeIterators : d.store.roster.iteratorsOf id = (d.iterators.madeThrough t).length := by
    refine Table.count_eq_length hcoherent.iterators (horderly.iterators.nodup_madeThrough t) ?_
    intro iterator
    rw [horderly.iterators.mem_madeThrough_iff horderly.sole horderly.databases hheld]
    simp [Roster.owner?]
  have hmadeSnapshots : d.store.roster.snapshotsOf id = (d.snapshots.madeThrough t).length := by
    refine Table.count_eq_length hcoherent.snapshots (horderly.snapshots.nodup_madeThrough t) ?_
    intro snapshot
    rw [horderly.snapshots.mem_madeThrough_iff horderly.sole horderly.databases hheld]
    simp [Roster.owner?]
  refine ⟨session, h.same.store ▸ hsession, ?_, ?_⟩
  · rw [hiterators, hmadeIterators, length_madeThrough h.same.iterators]
    rfl
  · rw [hsnapshots, hmadeSnapshots, length_madeThrough h.same.snapshots]
    rfl

/-! ## Failures -/

theorem code_ne_closed_of_refusal {output : Output} {failure : Failure}
    (h : failure.isRefusal = true) : Reply.code ⟨output, some failure⟩ ≠ .closed := by
  cases failure with
  | handle fault => cases fault <;> simp [Reply.code, Failure.code, ResultCode.ofHandleFault]
  | store e => simp [Failure.isRefusal] at h
  | _ => simp [Reply.code, Failure.code]

theorem Attends.never_closed (h : d.Attends g) (call : Call) :
    (g.serve call).2.code ≠ .closed := by
  cases horder : d.order? call with
  | some order =>
    rw [(h.accepts horder).reply_eq]
    exact h.orderly.code_ne_closed (h.orderly.finds (asks_of_order? horder)) _
  | none =>
    obtain ⟨_, ⟨_, hreply⟩ | ⟨output, failure, hreply, _, hrefusal⟩⟩ := h.refuses horder
    · simp [hreply, Reply.code]
    · rw [hreply]
      exact code_ne_closed_of_refusal hrefusal

/-! ## The summary -/

/-- The host is shown a summary only by the session behind a live token. -/
theorem Attends.stats_shown (h : d.Attends g) {t : Token} {text : Bytes}
    (hshown : (g.serve (.property t (.bytes (utf8 Property.stats.name)) true)).2.output =
      .buffer (some text)) :
    ∃ id session entries size, (t, id) ∈ d.databases.held ∧
      g.store.sessions.get? id = some session ∧
      text = utf8 (Session.stats session entries size) := by
  cases horder : d.order? (.property t (.bytes (utf8 Property.stats.name)) true) with
  | none =>
    obtain ⟨_, ⟨_, hreply⟩ | ⟨output, failure, hreply, hblank, _⟩⟩ := h.refuses horder
    · simp [hreply] at hshown
    · rw [hreply] at hshown
      rw [show output = .buffer (some text) from hshown] at hblank
      simp [Output.isBlank] at hblank
  | some order =>
    obtain ⟨id, hfind, hnext⟩ := Option.bind_eq_some_iff.mp horder
    obtain ⟨name, hname, hnext⟩ := Option.bind_eq_some_iff.mp hnext
    obtain rfl := Option.some.inj hnext
    obtain rfl : utf8 Property.stats.name = name := Option.some.inj hname
    rw [(h.accepts horder).reply_eq] at hshown
    have htext : (d.store.property id (utf8 Property.stats.name)).2.map utf8 = some text :=
      Output.buffer.inj hshown
    obtain ⟨shown, hproperty, rfl⟩ := Option.map_eq_some_iff.mp htext
    obtain ⟨session, entries, size, hsession, rfl⟩ := Store.stats_of_property hproperty
    exact ⟨id, session, entries, size, h.orderly.databases.find?_eq_some_iff.mp hfind,
      h.same.store ▸ hsession, rfl⟩

/-! ## Every state -/

theorem Attends.tended (h : d.Attends g) : g.Tended where
  iterator_owner {t child} hget := by
    have hheld := h.same.iterators.governs.get_iff.mp hget
    obtain ⟨id, hdatabase, howner⟩ := h.orderly.iterators.owned hheld
    obtain ⟨row, hrow, hid⟩ := Store.row_of_owner howner
    refine ⟨id, row, h.same.databases.governs.get_iff.mpr hdatabase, ?_, ?_, hid⟩
    · exact h.same.store ▸ h.orderly.isOpen hdatabase
    · exact h.same.store ▸ hrow
  snapshot_owner {t child} hget := by
    have hheld := h.same.snapshots.governs.get_iff.mp hget
    obtain ⟨id, hdatabase, howner⟩ := h.orderly.snapshots.owned hheld
    obtain ⟨row, hrow, hid⟩ := Option.map_eq_some_iff.mp howner
    refine ⟨id, row, h.same.databases.governs.get_iff.mpr hdatabase, ?_, ?_, hid⟩
    · exact h.same.store ▸ h.orderly.isOpen hdatabase
    · exact h.same.store ▸ hrow
  counters hget := h.counters (h.same.databases.governs.get_iff.mp hget)
  stats_shown hshown := by
    obtain ⟨id, session, entries, size, hheld, hsession, htext⟩ := h.stats_shown hshown
    obtain ⟨session', hsession', hiterators, hsnapshots⟩ := h.counters hheld
    obtain rfl := Option.some.inj (hsession.symm.trans hsession')
    exact ⟨session, entries, size, htext, hiterators, hsnapshots⟩
  never_closed := h.never_closed
  sole_holder {t id databases} hremove := by
    have hheld := h.same.databases.governs.remove_iff.mp (congrArg Prod.snd hremove)
    have hfind := h.orderly.databases.find?_eq_some_iff.mpr hheld
    obtain ⟨_, hremove', _, hothers⟩ := h.same.remove_database hfind fun u hu =>
      h.orderly.sole hheld hu
    rw [hremove] at hremove'
    rw [(Prod.mk.inj hremove').1]
    exact hothers
  nothing_left := by
    rw [← h.same.store]
    exact h.orderly.steady.quiet

end Desk

/-- In every state that a gateway comes to, over any files and through any calls, each child
has its database and nothing is left when a database is closed. -/
theorem Gateway.children_tended (v : Volume) (directives : Option String)
    (turns : List Gateway.Turn) :
    ((Gateway.ofStore (.ofVolume v) directives).run turns).Tended := by
  obtain ⟨d, hattends⟩ := Desk.attends_run v directives turns
  exact hattends.tended

end OrderedStore
