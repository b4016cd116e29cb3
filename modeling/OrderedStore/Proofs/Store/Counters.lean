import OrderedStore.Proofs.Store.Census

/-!
# The counters of children

Every open session counts its snapshots and iterators, up when one is made and down when
one goes, and shows the numbers in its summary.  The numbers are those of the census,
after anything that can happen, so they never fall below zero.

A call that is refused counts nothing.  Releasing a snapshot, even on behalf of the wrong
session, counts for the session that made it and for no other.
-/

set_option autoImplicit false

namespace OrderedStore

/-! ## The summary -/

namespace Store

variable {s : Store} {id : SessionId}

theorem ofName?_name (property : Property) :
    Property.ofName? (utf8 property.name) = some property := by
  cases property <;> decide +kernel

/-- An open session tells a property by its name if it can be computed. -/
theorem property_name {session : Session} (h : s.sessions.get? id = some session)
    (property : Property) :
    (s.property id (utf8 property.name)).2 = (s.compute id session property).2.toOption := by
  unfold Store.property
  rw [ofName?_name, h]
  dsimp only
  obtain ⟨t, outcome⟩ := s.compute id session property
  cases outcome with
  | ok text => rfl
  | error e => rfl

/-- The summary of an open session is there if its view and the size of its file can be
read. -/
theorem property_stats {session : Session} (h : s.sessions.get? id = some session) :
    (s.property id (utf8 Property.stats.name)).2 =
      ((s.latest id).2.bind fun view =>
        (session.engine.size s.volume).map fun size => session.stats view.size size).toOption := by
  have hcompute : (s.compute id session .stats).2 = (s.latest id).2.bind fun view =>
      (session.engine.size s.volume).map fun size => session.stats view.size size := by
    show (s.latest id).2.bind (fun view =>
      (session.engine.size (s.latest id).1.volume).map fun size => _) = _
    rw [volume_latest]
  rw [property_name h, hcompute]

/-- The summary of a session is made of its own counters. -/
theorem stats_of_property {text : String}
    (h : (s.property id (utf8 Property.stats.name)).2 = some text) :
    ∃ session entries size, s.sessions.get? id = some session ∧
      text = Session.stats session entries size := by
  cases hsession : s.sessions.get? id with
  | none => simp [property, hsession] at h
  | some session =>
    rw [property_stats hsession] at h
    cases hview : (s.latest id).2 with
    | error e => simp [hview, Except.bind, Except.toOption] at h
    | ok view =>
      cases hsize : session.engine.size s.volume with
      | error e => simp [hview, hsize, Except.bind, Except.map, Except.toOption] at h
      | ok size =>
        refine ⟨session, view.size, size, rfl, ?_⟩
        simpa [hview, hsize, Except.bind, Except.map, Except.toOption] using h.symm

end Store

/-! ## Counting -/

namespace Roster

variable {r : Roster} {id : SessionId}

theorem counters?_modifyEngine (f : Engine → Engine) (other : SessionId) :
    (r.modifyEngine id f).counters? other = r.counters? other := by
  rw [modifyEngine, counters?_modifySession (g := fun c => c) (by intro; rfl),
    Option.map_id', ite_self]

/-- A snapshot that goes counts for its owner. -/
theorem counters?_dropSnapshot (snapshot : SnapshotId) (other : SessionId) :
    (r.dropSnapshot snapshot).counters? other =
      if r.owner? (.snapshot snapshot) = some other then
        (r.counters? other).map fun n => (n.1 - 1, n.2)
      else r.counters? other := by
  have howner : r.owner? (.snapshot snapshot) = (r.snapshots.get? snapshot).map Snapshot.owner :=
    rfl
  rw [howner]
  unfold dropSnapshot
  cases hrow : r.snapshots.get? snapshot with
  | none => simp
  | some row =>
    refine (counters?_modifySession (g := fun n => (n.1 - 1, n.2)) (by intro; rfl) other).trans ?_
    exact if_congr (by simp [eq_comm]) rfl rfl

end Roster

namespace Census

/-- The counters of the store are those of the census. -/
structure Exact (c : Census) (s : Store) : Prop where
  /-- An open session counts the snapshots and iterators that it has made and that have not
  gone. -/
  counters : ∀ {id : SessionId} {session : Session}, s.sessions.get? id = some session →
    session.liveSnapshots = (c.snapshotsOf id).length ∧
      session.liveIterators = (c.iteratorsOf id).length
  /-- So no counter is below zero. -/
  nonneg : ∀ {id : SessionId} {session : Session}, s.sessions.get? id = some session →
    0 ≤ session.liveSnapshots ∧ 0 ≤ session.liveIterators
  /-- The summary that a session shows has these numbers in its last two lines. -/
  shown : ∀ {id : SessionId} {text : String},
    (s.property id (utf8 Property.stats.name)).2 = some text →
    ∃ (path : String) (entries size : Nat),
      text = "path: " ++ path ++ "\n" ++ s!"entries: {entries}\nsize: {size}\n" ++
        s!"snapshots: {(c.snapshotsOf id).length}\niterators: {(c.iteratorsOf id).length}\n"
  /-- It shows one whenever the view and the size that are in the summary can be read. -/
  shows : ∀ {id : SessionId} {session : Session} {view : Keyspace} {size : Nat},
    s.sessions.get? id = some session → (s.latest id).2 = .ok view →
    session.engine.size s.volume = .ok size →
    ((s.property id (utf8 Property.stats.name)).2).isSome = true
  /-- Reading a key counts nothing, refused or not. -/
  get : ∀ (id : SessionId) (snapshot : Option SnapshotId) (key : Bytes) (other : SessionId),
    (s.get id snapshot key).1.roster.counters? other = s.roster.counters? other
  /-- An iterator that is refused changes nothing at all. -/
  iterate : ∀ {id : SessionId} {snapshot : Option SnapshotId} {e : Error},
    (s.iterate id snapshot).2 = .error e → (s.iterate id snapshot).1 = s
  /-- A release, refused or not, takes the snapshot off the count of the session that made
  it and off no other. -/
  release : ∀ (id : SessionId) (snapshot : SnapshotId) (other : SessionId),
    (s.releaseSnapshot id snapshot).1.roster.counters? other =
      if (.snapshot snapshot, other) ∈ c then
        (s.roster.counters? other).map fun n => (n.1 - 1, n.2)
      else s.roster.counters? other

namespace Lists

variable {c : Census} {s : Store}

theorem counters (h : c.Lists s.roster) (hcoherent : s.roster.Coherent) {id : SessionId}
    {session : Session} (hsession : s.sessions.get? id = some session) :
    session.liveSnapshots = (c.snapshotsOf id).length ∧
      session.liveIterators = (c.iteratorsOf id).length := by
  have hcounters : s.roster.counters? id =
      some (session.liveSnapshots, session.liveIterators) := by
    show (s.sessions.get? id).map _ = _
    rw [hsession]
    rfl
  obtain ⟨hsnapshots, hiterators⟩ := Prod.mk.inj (hcoherent.counted hcounters)
  rw [hsnapshots, hiterators, h.snapshotsOf_eq hcoherent, h.iteratorsOf_eq hcoherent]
  exact ⟨rfl, rfl⟩

theorem exact_of_lists (h : c.Lists s.roster) (hcoherent : s.roster.Coherent) : c.Exact s where
  counters := h.counters hcoherent
  nonneg hsession := by
    obtain ⟨hsnapshots, hiterators⟩ := h.counters hcoherent hsession
    omega
  shown htext := by
    obtain ⟨session, entries, size, hsession, rfl⟩ := Store.stats_of_property htext
    obtain ⟨hsnapshots, hiterators⟩ := h.counters hcoherent hsession
    refine ⟨session.engine.path?.getD "(memory)", entries, size, ?_⟩
    rw [Session.stats, hsnapshots, hiterators]
    rfl
  shows hsession hview hsize := by
    rw [Store.property_stats hsession, hview]
    simp [Except.bind, hsize, Except.map, Except.toOption]
  get id snapshot key other := by
    cases hread : s.checkRead id snapshot with
    | error e => rw [Store.get_of_error hread]
    | ok _ =>
      rw [Store.get_of_ok hread]
      cases snapshot with
      | some snapshot => rfl
      | none =>
        show (s.latest id).1.roster.counters? other = _
        rw [Store.roster_latest, Roster.counters?_modifyEngine]
  iterate {id snapshot e} hrefused := by
    cases hread : s.checkRead id snapshot with
    | error e' => rw [Store.iterate_of_error hread]
    | ok _ =>
      rw [(Store.iterate_of_ok hread).2.2] at hrefused
      cases hrefused
  release id snapshot other := by
    show (s.dropSnapshot snapshot).roster.counters? other = _
    rw [(Store.dropSnapshot_spec s snapshot).1, Roster.counters?_dropSnapshot]
    exact if_congr (h.mem_iff _ other).symm rfl rfl

end Lists

end Census

/-- After any number of openings, closings, drops and releases in any order, over any files
and whoever changes them, the counters of every open session are exact. -/
theorem Store.child_counters_exact (v : Volume) (events : List Happening) :
    (followAll (ofVolume v, []) events).2.Exact (followAll (ofVolume v, []) events).1 := by
  obtain ⟨hcoherent, hlists⟩ := lists_ofVolume v events
  exact hlists.exact_of_lists hcoherent

end OrderedStore
