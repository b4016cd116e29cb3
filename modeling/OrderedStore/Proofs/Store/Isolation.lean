import OrderedStore.Proofs.Store.Chronicle

/-!
# Snapshot isolation

`snapshot_isolation` says that every read of a store gives what its chronicle has: a read
through a snapshot the map that was the latest one when the snapshot was taken, a
read without one the latest map, and an iterator the map that it was made over, at every
moment of every run until the session is closed.

The proof is that every action keeps the chronicle telling the store, whose volume
has engines in working order only; so it is also shown that no read, snapshot or iterator of an
open session is ever refused, and a write only if the engine refuses a step of it.
-/

set_option autoImplicit false

namespace OrderedStore

namespace Keyspace

/-- A keyspace answers with entries of its own. -/
theorem mem_of_answer {m : Keyspace} {query : Query} {e : Entry}
    (h : m.answer query = some e) : e ∈ m.entries := by
  cases query with
  | first => exact List.mem_of_head? h
  | last => exact List.mem_of_getLast? h
  | seek key => exact List.mem_of_find?_eq_some h
  | after key => exact List.mem_of_find?_eq_some h
  | before key => exact List.takeWhile_subset _ (List.mem_of_getLast? h)

end Keyspace

namespace Chronicle

open Store

variable {c : Chronicle} {s : Store} {id : SessionId}

namespace Tells

/-! ## Single operations -/

theorem session (h : c.Tells s.volume s.roster) {m : Keyspace} (hm : c.committed id = some m) :
    ∃ session, s.sessions.get? id = some session ∧ session.engine.latest = m := by
  obtain ⟨engine, hengine, hlatest⟩ := h.engine hm
  obtain ⟨session, hsession, rfl⟩ := Option.map_eq_some_iff.mp hengine
  exact ⟨session, hsession, hlatest⟩

theorem session_none (h : c.Tells s.volume s.roster) (hnone : c.committed id = none) :
    s.sessions.get? id = none := by
  have hopen : (s.sessions.get? id).isSome = (c.committed id).isSome := h.isOpen id
  rw [hnone] at hopen
  exact Option.not_isSome_iff_eq_none.mp (by simp [hopen])

theorem latest (h : c.Tells s.volume s.roster) (id : SessionId) :
    c.Tells (s.latest id).1.volume (s.latest id).1.roster := by
  rw [volume_latest, roster_latest]
  exact h.accessed id

theorem latest_eq (h : c.Tells s.volume s.roster) {m : Keyspace} (hm : c.committed id = some m) :
    (s.latest id).2 = .ok m := by
  obtain ⟨session, hsession, rfl⟩ := h.session hm
  rw [latest_of_open hsession]
  exact (h.serves.sits (Roster.engine?_of_session hsession)).view

theorem commit_eq (h : c.Tells s.volume s.roster) {m : Keyspace} (hm : c.committed id = some m)
    (write : Write) :
    (s.verdicts.Grants .write write.mutations ∧ (s.commit id write).2 = .ok () ∧
        (c.change id fun m => m.applyAll write.mutations).Tells (s.commit id write).1.volume
          (s.commit id write).1.roster) ∨
      ∃ fault, s.verdicts.Refuses .write write.mutations fault ∧
        (s.commit id write).2 = .error (.ofFault fault) ∧
        c.Tells (s.commit id write).1.volume (s.commit id write).1.roster := by
  obtain ⟨session, hsession, _⟩ := h.session hm
  obtain ⟨hroster, hvolume, houtcome⟩ := commit_of_open hsession write
  rw [hroster, hvolume, houtcome]
  exact h.commit (Roster.engine?_of_session hsession) write.mutations s.verdicts

theorem owns_iff (h : c.Tells s.volume s.roster) {snapshot : SnapshotId} :
    s.owns id snapshot = true ↔ ∃ m, c.views (.snapshot snapshot) = some (id, m) := by
  have howner := h.owner (.snapshot snapshot)
  have howns : s.owns id snapshot = true ↔ s.roster.owner? (.snapshot snapshot) = some id := by
    show (s.snapshots.get? snapshot).any _ = true ↔ (s.snapshots.get? snapshot).map _ = some id
    cases s.snapshots.get? snapshot <;> simp
  rw [howns, howner, Option.map_eq_some_iff]
  constructor
  · rintro ⟨⟨id', m⟩, hview, rfl⟩
    exact ⟨m, hview⟩
  · rintro ⟨m, hview⟩
    exact ⟨(id, m), hview, rfl⟩

/-- A read may go on if the session is open and there is a view of its own for it. -/
theorem checkRead_eq_ok_iff (h : c.Tells s.volume s.roster) {snapshot : Option SnapshotId} :
    s.checkRead id snapshot = .ok () ↔
      (∃ m, c.committed id = some m) ∧ ∃ p, c.viewFor id snapshot = some (id, p) := by
  have hopen : s.isOpen id = (c.committed id).isSome := h.isOpen id
  unfold checkRead
  rw [hopen]
  cases hm : c.committed id with
  | none => simp
  | some m =>
    cases snapshot with
    | none => simp [viewFor, hm]
    | some snapshot =>
      show s.checkOwner id snapshot = .ok () ↔ _
      rw [checkOwner]
      split
      · rename_i howns
        exact ⟨fun _ => ⟨⟨m, rfl⟩, h.owns_iff.mp howns⟩, fun _ => rfl⟩
      · rename_i howns
        refine ⟨fun herror => by simp at herror, fun hview => ?_⟩
        exact absurd (h.owns_iff.mpr hview.2) howns

theorem isOpen_of_committed (h : c.Tells s.volume s.roster) {m : Keyspace}
    (hm : c.committed id = some m) : s.roster.isOpen id = true := by
  rw [h.isOpen, hm]
  rfl

theorem pinned_of_view? {lease : LeaseId} {m : Keyspace} (hview : s.roster.view? lease = some m) :
    s.pinned lease = .ok m := by
  obtain ⟨row, hrow, hm⟩ := Option.bind_eq_some_iff.mp hview
  have hget : s.leases.get? lease = some row := hrow
  unfold pinned Lease.read
  rw [hget, Option.getD_some, hm]

theorem viewAt (h : c.Tells s.volume s.roster) (id : SessionId) (snapshot : Option SnapshotId) :
    c.Tells (s.viewAt id snapshot).1.volume (s.viewAt id snapshot).1.roster := by
  cases snapshot with
  | none => exact h.latest id
  | some snapshot => exact h

theorem viewAt_eq (h : c.Tells s.volume s.roster) {m p : Keyspace} {snapshot : Option SnapshotId}
    (hm : c.committed id = some m) (hp : c.viewFor id snapshot = some (id, p)) :
    (s.viewAt id snapshot).2 = .ok p := by
  cases snapshot with
  | none =>
    simp only [viewFor, hm, Option.map_some, Option.some.injEq, Prod.mk.injEq, true_and] at hp
    rw [← hp]
    exact h.latest_eq hm
  | some snapshot =>
    have hview := h.view hp (h.isOpen_of_committed hm)
    obtain ⟨lease, hlease, hread⟩ := Option.bind_eq_some_iff.mp hview
    obtain ⟨row, hrow, rfl⟩ := Option.map_eq_some_iff.mp hlease
    have hget : s.snapshots.get? snapshot = some row := hrow
    show s.snapshotView snapshot = .ok p
    unfold snapshotView
    rw [hget]
    exact pinned_of_view? hread

theorem get_eq (h : c.Tells s.volume s.roster) {m p : Keyspace} {snapshot : Option SnapshotId}
    (hm : c.committed id = some m) (hp : c.viewFor id snapshot = some (id, p)) (key : Bytes) :
    (s.get id snapshot key).2 = .ok (p.get? key) := by
  have hread := h.checkRead_eq_ok_iff.mpr ⟨⟨m, hm⟩, p, hp⟩
  rw [get_of_ok hread, h.viewAt_eq hm hp]
  rfl

theorem get (h : c.Tells s.volume s.roster) (id : SessionId) (snapshot : Option SnapshotId)
    (key : Bytes) :
    c.Tells (s.get id snapshot key).1.volume (s.get id snapshot key).1.roster := by
  cases hread : s.checkRead id snapshot with
  | error e =>
    rw [get_of_error hread]
    exact h
  | ok _ =>
    rw [get_of_ok hread]
    exact h.viewAt id snapshot

theorem property (h : c.Tells s.volume s.roster) (id : SessionId) (name : Bytes) :
    c.Tells (s.property id name).1.volume (s.property id name).1.roster := by
  obtain ⟨hsame | hlatest, hvolume⟩ := property_spec s id name
  · rw [hsame, hvolume]
    exact h
  · rw [hlatest, hvolume, roster_latest]
    exact h.accessed id

theorem snapshot_eq (h : c.Tells s.volume s.roster) {m : Keyspace} (hm : c.committed id = some m) :
    (s.snapshot id).2 = .ok s.snapshots.fresh ∧
      (c.see (.snapshot s.snapshots.fresh) (some (id, m))).Tells (s.snapshot id).1.volume
        (s.snapshot id).1.roster := by
  obtain ⟨hroster, hvolume, houtcome⟩ := snapshot_of_ok (h.latest_eq hm)
  rw [hroster, hvolume, roster_latest]
  refine ⟨houtcome, (h.accessed id).addSnapshot ?_ m⟩
  rw [(h.accessed id).isOpen, hm]
  rfl

theorem snapshot_closed (h : c.Tells s.volume s.roster) (hnone : c.committed id = none) :
    s.snapshot id = (s, .error (.closed .database)) := by
  have hlatest := latest_of_closed (h.session_none hnone)
  have herror : (s.latest id).2 = .error (.closed .database) := by rw [hlatest]
  rw [snapshot_of_error herror, hlatest]

theorem iterate_eq (h : c.Tells s.volume s.roster) {m p : Keyspace} {snapshot : Option SnapshotId}
    (hm : c.committed id = some m) (hp : c.viewFor id snapshot = some (id, p)) :
    (s.iterate id snapshot).2 = .ok s.iterators.fresh ∧
      ((c.see (.iterator s.iterators.fresh) (some (id, p))).place s.iterators.fresh
        (some .unpositioned)).Tells (s.iterate id snapshot).1.volume
          (s.iterate id snapshot).1.roster := by
  have hread := h.checkRead_eq_ok_iff.mpr ⟨⟨m, hm⟩, p, hp⟩
  have hviewed := h.viewAt id snapshot
  have hiterators : (s.viewAt id snapshot).1.iterators = s.iterators := by
    cases snapshot with
    | none => exact congrArg Roster.iterators (roster_latest s id)
    | some snapshot => rfl
  obtain ⟨hroster, hvolume, houtcome⟩ := iterate_of_ok hread
  rw [hiterators] at houtcome
  rw [hroster, hvolume, h.viewAt_eq hm hp]
  refine ⟨houtcome, ?_⟩
  have hopen : (s.viewAt id snapshot).1.roster.isOpen id = true := by
    rw [hviewed.isOpen, hm]
    rfl
  have hadded := hviewed.addIterator hopen p
  have hfresh : (s.viewAt id snapshot).1.roster.iterators = s.iterators := hiterators
  rw [hfresh] at hadded
  exact hadded

/-- An iterator reads as the chronicle says. -/
theorem reader_eq (h : c.Tells s.volume s.roster) {iterator : IteratorId} {row : Iterator}
    (hrow : s.iterators.get? iterator = some row) : s.reader row = c.reader iterator := by
  have howner := h.owner (.iterator iterator)
  have hown : s.roster.owner? (.iterator iterator) = some row.owner := by
    show (s.iterators.get? iterator).map Iterator.owner = _
    rw [hrow]
    rfl
  rw [hown] at howner
  -- The chronicle knows the row's owner, and through the owner's lease the map it reads.
  obtain ⟨⟨id, p⟩, hview, hid⟩ := Option.map_eq_some_iff.mp howner.symm
  simp only at hid
  subst hid
  unfold Chronicle.reader Store.reader
  rw [hview]
  simp only [Option.bind_some]
  cases hm : c.committed row.owner with
  | none =>
    rw [h.session_none hm]
    rfl
  | some m =>
    obtain ⟨session, hsession, _⟩ := h.session hm
    have hseen := h.view hview (h.isOpen_of_committed hm)
    obtain ⟨lease, hlease, hread⟩ := Option.bind_eq_some_iff.mp hseen
    have hlease' : (s.iterators.get? iterator).bind (fun row => row.view.toOption) = some lease :=
      hlease
    rw [hrow, Option.bind_some] at hlease'
    cases hcase : row.view with
    | error e => simp [hcase, Except.toOption] at hlease'
    | ok lease' =>
      have heq : lease' = lease := by simpa [hcase, Except.toOption] using hlease'
      rw [heq] at hcase
      rw [hsession]
      refine congrArg some (funext fun query => ?_)
      have haccess := (h.serves.sits (Roster.engine?_of_session hsession)).access
      simp only [answer, hcase, pinned_of_view? hread, haccess]
      rfl

theorem move_eq (h : c.Tells s.volume s.roster) {iterator : IteratorId} {cursor : Cursor}
    (hcursor : c.cursors iterator = some cursor) (m : Move) :
    (s.move iterator m).2 = (cursor.move (c.reader iterator) m).2 ∧
      (c.place iterator (some (cursor.move (c.reader iterator) m).1)).Tells
        (s.move iterator m).1.volume (s.move iterator m).1.roster := by
  have hplace : (s.iterators.get? iterator).map Iterator.cursor = some cursor :=
    (h.cursor iterator).trans hcursor
  obtain ⟨row, hrow, rfl⟩ := Option.map_eq_some_iff.mp hplace
  obtain ⟨hroster, hvolume, houtcome⟩ := move_of_some hrow m
  rw [h.reader_eq hrow] at hroster houtcome
  have htouched : c.Tells s.volume
      (if s.reaches row m then s.roster.modifyEngine row.owner (Engine.accessed s.volume)
        else s.roster) := by
    split
    · exact h.accessed row.owner
    · exact h
  -- An iterator lands only on entries that its own map has answered.
  have hmem : ∀ {id : SessionId} {p : Keyspace} {e : Entry},
      c.views (.iterator iterator) = some (id, p) →
      (row.cursor.move (c.reader iterator) m).1 = .valid e → e ∈ p.entries := by
    intro id p e hview hvalid
    unfold Cursor.move at hvalid
    split at hvalid
    · exact h.entry_mem hview (hvalid ▸ hcursor)
    · split at hvalid
      · simp at hvalid
      · rename_i read hread
        unfold Chronicle.reader at hread
        rw [hview, Option.bind_some] at hread
        obtain ⟨_, _, rfl⟩ := Option.map_eq_some_iff.mp hread
        simp only [Cursor.land] at hvalid
        split at hvalid
        · rename_i hanswer
          rw [← Cursor.valid.inj hvalid]
          exact Keyspace.mem_of_answer (Except.ok.inj hanswer)
        · simp at hvalid
        · simp at hvalid
  have hset := htouched.setCursor hmem
  rw [hcursor] at hset
  rw [hroster, hvolume]
  exact ⟨houtcome, hset⟩

/-! ## Keeping the chronicle -/

theorem openedAs (h : c.Tells s.volume s.roster) {s' : Store} {engine : Engine}
    (hopened : s.OpenedAs s' engine) :
    s'.roster.committed? s.sessions.fresh = some engine.latest ∧
      (c.hold s.sessions.fresh (some engine.latest)).Tells s'.volume s'.roster := by
  obtain ⟨logger, options, hroster⟩ := hopened.roster
  have hwell := h.serves.wellFormed
  rw [hroster]
  refine ⟨?_, h.openSession ⟨logger, options, engine, 0, 0, []⟩ rfl rfl rfl
    (hopened.spares hwell) (hopened.sits hwell) (hopened.free hwell)⟩
  rw [Roster.committed?, Roster.engine?_openSession]
  exact congrArg (Option.map Engine.latest) (if_pos rfl)

theorem ended (h : c.Tells s.volume s.roster) (id : SessionId) :
    (c.hold id none).Tells
      (match s.sessions.get? id with
        | none => s.volume
        | some session => session.engine.release s.volume)
      (s.roster.endSession id) := by
  cases hsession : s.sessions.get? id with
  | none =>
    have hcommitted : c.committed id = none := by
      have hopen : (s.sessions.get? id).isSome = (c.committed id).isSome := h.isOpen id
      rw [hsession] at hopen
      exact Option.not_isSome_iff_eq_none.mp (by simp [← hopen])
    have hget : s.roster.sessions.get? id = none := hsession
    have hsame : s.roster.endSession id = s.roster := by simp only [Roster.endSession, hget]
    rw [hold_self hcommitted, hsame]
    exact h
  | some session => exact h.endSession hsession

/-- A commit is written down as the change of the map that it is. -/
theorem committed_note (h : c.Tells s.volume s.roster) (id : SessionId) (write : Write)
    (keep : Answer → Chronicle) (herror : ∀ e, keep (.done (.error e)) = c)
    (hok : keep (.done (.ok ())) = c.change id fun m => m.applyAll write.mutations) :
    (keep (.done (s.commit id write).2)).Tells (s.commit id write).1.volume
      (s.commit id write).1.roster := by
  cases hm : c.committed id with
  | none =>
    rw [commit_of_closed (h.session_none hm), herror]
    exact h
  | some m =>
    rcases h.commit_eq hm write with ⟨_, houtcome, htells⟩ | ⟨fault, _, houtcome, htells⟩
    · rw [houtcome, hok]
      exact htells
    · rw [houtcome, herror]
      exact htells

/-- One action keeps the chronicle in step with the store. -/
theorem perform (h : c.Tells s.volume s.roster) (action : Action) :
    (Store.chronicle (s, c) action).2.Tells (Store.chronicle (s, c) action).1.volume
      (Store.chronicle (s, c) action).1.roster := by
  cases action with
  | openAt path options =>
    rcases openAt_spec s path options with ⟨s', engine, heq, hopened⟩ | ⟨s', e, heq, hfailed⟩
    · obtain ⟨hfound, htells⟩ := h.openedAs hopened
      simp only [Store.chronicle, Store.perform, heq, note, found, hfound, Option.getD_some]
      exact htells
    · simp only [Store.chronicle, Store.perform, heq, note]
      rw [hfailed.roster]
      exact (h.spares (hfailed.spares h.serves.wellFormed)).skipSession
  | openMemory options =>
    rcases openInMemory_spec s options with ⟨s', heq, _, hopened⟩ | ⟨s', e, heq, _, hfailed⟩
    · simp only [Store.chronicle, Store.perform, heq, note]
      exact (h.openedAs hopened).2
    · simp only [Store.chronicle, Store.perform, heq, note]
      rw [hfailed.roster]
      exact (h.spares (hfailed.spares h.serves.wellFormed)).skipSession
  | close id =>
    simp only [Store.chronicle, Store.perform, note, roster_close, volume_close]
    exact h.ended id
  | discard id =>
    simp only [Store.chronicle, Store.perform, note, roster_discard, volume_discard]
    exact h.ended id
  | put id key value sync =>
    exact h.committed_note id _ (c.note .empty (.put id key value sync)) (fun _ => rfl) rfl
  | putOption id key value sync =>
    cases value with
    | some value =>
      exact h.committed_note id _ (c.note .empty (.putOption id key (some value) sync))
        (fun _ => rfl) rfl
    | none =>
      exact h.committed_note id _ (c.note .empty (.putOption id key none sync)) (fun _ => rfl) rfl
  | delete id key sync =>
    exact h.committed_note id _ (c.note .empty (.delete id key sync)) (fun _ => rfl) rfl
  | write id batch sync =>
    exact h.committed_note id _ (c.note .empty (.write id batch sync)) (fun _ => rfl) rfl
  | get id snapshot key => exact h.get id snapshot key
  | property id name => exact h.property id name
  | snapshot id =>
    cases hm : c.committed id with
    | none =>
      simp only [Store.chronicle, Store.perform, h.snapshot_closed hm, note]
      exact h
    | some m =>
      obtain ⟨houtcome, htells⟩ := h.snapshot_eq hm
      simp only [Store.chronicle, Store.perform, houtcome, note, viewFor, hm, Option.map_some]
      exact htells
  | releaseSnapshot id snapshot =>
    simp only [Store.chronicle, Store.perform, releaseSnapshot, note, dropSnapshot_spec]
    exact h.dropSnapshot snapshot
  | dropSnapshot snapshot =>
    simp only [Store.chronicle, Store.perform, note, dropSnapshot_spec]
    exact h.dropSnapshot snapshot
  | iterate id snapshot =>
    cases hread : s.checkRead id snapshot with
    | error e =>
      simp only [Store.chronicle, Store.perform, iterate_of_error hread, note]
      exact h
    | ok _ =>
      obtain ⟨⟨m, hm⟩, p, hp⟩ := h.checkRead_eq_ok_iff.mp hread
      obtain ⟨houtcome, htells⟩ := h.iterate_eq hm hp
      simp only [Store.chronicle, Store.perform, houtcome, note, hp]
      exact htells
  | move iterator m =>
    simp only [Store.chronicle, Store.perform, note]
    cases hcursor : c.cursors iterator with
    | none =>
      have hrow : s.iterators.get? iterator = none :=
        Option.map_eq_none_iff.mp ((h.cursor iterator).trans hcursor)
      rw [move_of_none hrow, Option.map_none, place_self hcursor]
      exact h
    | some cursor => exact (h.move_eq hcursor m).2
  | dropIterator iterator =>
    simp only [Store.chronicle, Store.perform, note, dropIterator_spec]
    exact h.dropIterator iterator
  | destroy path =>
    obtain ⟨hroster, hvolume, _⟩ := destroy_spec s path
    simp only [Store.chronicle, Store.perform, note, hroster, hvolume]
    exact h.spares (Directory.spares_destroy h.serves.wellFormed path)
  | repair path =>
    obtain ⟨hroster, _, hspares⟩ := repair_spec s path
    simp only [Store.chronicle, Store.perform, note, hroster]
    exact (h.spares (hspares h.serves.wellFormed)).skipSession
  | listen filter => exact h
  | sway verdicts => exact h
  | report event => exact h

/-- So does a whole run. -/
theorem run (h : c.Tells s.volume s.roster) (actions : List Action) :
    (chronicleAll (s, c) actions).2.Tells (chronicleAll (s, c) actions).1.volume
      (chronicleAll (s, c) actions).1.roster := by
  induction actions generalizing s c with
  | nil => exact h
  | cons action rest ih => exact ih (h.perform action)

end Tells

/-! ## What is read -/

/-- Everything that is read from a store is what the chronicle has. -/
structure Isolates (c : Chronicle) (s : Store) : Prop where
  isOpen_iff : ∀ id, s.isOpen id = true ↔ ∃ m, c.committed id = some m
  owns_iff : ∀ id snapshot,
    s.owns id snapshot = true ↔ ∃ p, c.views (.snapshot snapshot) = some (id, p)
  /-- Without a snapshot the latest map is read. -/
  get_latest : ∀ {id : SessionId} {m : Keyspace}, c.committed id = some m →
    ∀ key, (s.get id none key).2 = .ok (m.get? key)
  /-- Through a snapshot the map is read that was the latest one when it was taken. -/
  get_snapshot : ∀ {id : SessionId} {m p : Keyspace} {snapshot : SnapshotId},
    c.committed id = some m → c.views (.snapshot snapshot) = some (id, p) →
    ∀ key, (s.get id (some snapshot) key).2 = .ok (p.get? key)
  /-- A snapshot can be taken, and it is not one that is there already. -/
  snapshot_ok : ∀ {id : SessionId} {m : Keyspace}, c.committed id = some m →
    ∃ snapshot, (s.snapshot id).2 = .ok snapshot ∧ c.views (.snapshot snapshot) = none
  iterate_ok : ∀ {id : SessionId} {m p : Keyspace} {snapshot : Option SnapshotId},
    c.committed id = some m → c.viewFor id snapshot = some (id, p) →
    ∃ iterator, (s.iterate id snapshot).2 = .ok iterator ∧ c.views (.iterator iterator) = none
  /-- A write is done if the engine grants every step of it. -/
  commit_ok : ∀ {id : SessionId} {m : Keyspace} (write : Write), c.committed id = some m →
    s.verdicts.Grants .write write.mutations → (s.commit id write).2 = .ok ()
  /-- If it is not done, it fails as the engine has refused a step of it. -/
  commit_error : ∀ {id : SessionId} {m : Keyspace} (write : Write) (e : Error),
    c.committed id = some m → (s.commit id write).2 = .error e →
    ∃ fault, s.verdicts.Refuses .write write.mutations fault ∧ e = .ofFault fault
  /-- An iterator stands on entries of its own map only, and every move goes where that
  map says. -/
  iterator : ∀ {id : SessionId} {m p : Keyspace} {iterator : IteratorId},
    c.committed id = some m → c.views (.iterator iterator) = some (id, p) →
    ∃ cursor, c.cursors iterator = some cursor ∧
      s.entry? iterator = cursor.entry? true ∧
      (∀ e, s.entry? iterator = some e → e ∈ p.entries) ∧
      ∀ move, (s.move iterator move).2 = .ok () ∧
        Store.entry? (s.move iterator move).1 iterator =
          Cursor.entry? true (cursor.move (some fun query => .ok (p.answer query)) move).1

theorem Tells.entry?_eq (h : c.Tells s.volume s.roster) {m p : Keyspace} {iterator : IteratorId}
    (hm : c.committed id = some m) (hp : c.views (.iterator iterator) = some (id, p)) :
    ∃ cursor, c.cursors iterator = some cursor ∧ s.entry? iterator = cursor.entry? true := by
  have howner : (s.iterators.get? iterator).map Iterator.owner = some id := by
    refine (h.owner (.iterator iterator)).trans ?_
    rw [hp]
    rfl
  obtain ⟨row, hrow, rfl⟩ := Option.map_eq_some_iff.mp howner
  refine ⟨row.cursor, ?_, ?_⟩
  · rw [← h.cursor]
    show (s.iterators.get? iterator).map Iterator.cursor = _
    rw [hrow]
    rfl
  · have hopen : s.isOpen row.owner = true := h.isOpen_of_committed hm
    unfold Store.entry?
    rw [hrow, Option.bind_some, hopen]

theorem Tells.views_none (h : c.Tells s.volume s.roster) {b : Borrower}
    (hnone : s.roster.owner? b = none) : c.views b = none := by
  rw [h.owner, Option.map_eq_none_iff] at hnone
  exact hnone

theorem Tells.isolates (h : c.Tells s.volume s.roster) : c.Isolates s where
  isOpen_iff id := by
    have hopen : s.isOpen id = (c.committed id).isSome := h.isOpen id
    rw [hopen, Option.isSome_iff_exists]
  owns_iff id snapshot := h.owns_iff
  get_latest {id m} hm key := by
    have hp : c.viewFor id none = some (id, m) := by
      rw [viewFor, hm]
      rfl
    exact h.get_eq hm hp key
  get_snapshot {id m p snapshot} hm hp key := by
    have hp' : c.viewFor id (some snapshot) = some (id, p) := hp
    exact h.get_eq hm hp' key
  snapshot_ok hm := ⟨_, (h.snapshot_eq hm).1, h.views_none h.coherent.owner?_snapshot_fresh⟩
  iterate_ok hm hp := ⟨_, (h.iterate_eq hm hp).1, h.views_none h.coherent.owner?_iterator_fresh⟩
  commit_ok write hm hgrants := by
    rcases h.commit_eq hm write with ⟨_, houtcome, _⟩ | ⟨fault, hrefuses, _⟩
    · exact houtcome
    · exact absurd hrefuses (hgrants.not_refuses fault)
  commit_error write e hm herror := by
    rcases h.commit_eq hm write with ⟨_, houtcome, _⟩ | ⟨fault, hrefuses, houtcome, _⟩
    · rw [houtcome] at herror
      simp at herror
    · rw [houtcome] at herror
      exact ⟨fault, hrefuses, (Except.error.inj herror).symm⟩
  iterator {id m p iterator} hm hp := by
    obtain ⟨cursor, hcursor, hentry⟩ := h.entry?_eq hm hp
    refine ⟨cursor, hcursor, hentry, ?_, fun move => ?_⟩
    · intro e he
      rw [hentry] at he
      cases cursor with
      | valid entry =>
        obtain rfl := Option.some.inj he
        exact h.entry_mem hp hcursor
      | unpositioned => cases he
      | exhausted => cases he
      | degraded error => cases he
    · have hreader : c.reader iterator = some fun query => .ok (p.answer query) := by
        rw [Chronicle.reader, hp, Option.bind_some, hm]
        rfl
      obtain ⟨houtcome, htells⟩ := h.move_eq hcursor move
      rw [hreader] at houtcome htells
      have hm' : (c.place iterator (some (cursor.move
          (some fun query => .ok (p.answer query)) move).1)).committed id = some m := hm
      obtain ⟨moved, hmoved, hentry'⟩ := htells.entry?_eq hm' hp
      rw [cursors_place, if_pos rfl] at hmoved
      rw [hentry', ← Option.some.inj hmoved, houtcome]
      refine ⟨?_, rfl⟩
      unfold Cursor.move
      split <;> rfl

/-- Snapshot isolation: after every run, over any number of sessions, every read gives the map
that it should, and none is refused.  The files may hold anything at the beginning. -/
theorem snapshot_isolation {v : Volume} (h : v.WellFormed) (actions : List Action) :
    (chronicleAll (ofVolume v, empty) actions).2.Isolates ((ofVolume v).run actions) := by
  have htells := Tells.run (s := ofVolume v) (tells_empty h) actions
  rw [chronicleAll_fst] at htells
  exact htells.isolates

/-- The theorem on an empty volume: a write after a snapshot. -/
theorem snapshot_isolation_empty :
    Volume.empty.WellFormed ∧
      (chronicleAll (ofVolume .empty, empty)
        [.openMemory {}, .put ⟨0⟩ [1] [2] true, .snapshot ⟨0⟩, .put ⟨0⟩ [1] [3] true]).2.Isolates
        ((ofVolume .empty).run
          [.openMemory {}, .put ⟨0⟩ [1] [2] true, .snapshot ⟨0⟩, .put ⟨0⟩ [1] [3] true]) :=
  ⟨Volume.wellFormed_empty, snapshot_isolation Volume.wellFormed_empty _⟩

end Chronicle

end OrderedStore
