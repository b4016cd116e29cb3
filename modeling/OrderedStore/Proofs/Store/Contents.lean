import OrderedStore.Proofs.Batch
import OrderedStore.Proofs.Store.Retention
import OrderedStore.Proofs.Store.Scanning

/-!
# What a session offers

An open session whose engine is in order and grants all writes offers a map: it is what reads
find, what a scan yields and what the next write is applied to.  `Offers` is kept by every
operation on the session that commits or reads, so what a run of them leaves is the fold of its
writes.

The fold of numbered writes is told by number: under a key is what the greatest of the numbers
that fall on it has written (`get?_puts`).
-/

set_option autoImplicit false

namespace OrderedStore

/-! ## Numbered writes -/

namespace Mutation

/-- Writes numbered from zero. -/
def puts (key value : Nat → Bytes) (n : Nat) : List Mutation :=
  (List.range n).map fun i => .put (key i) (value i)

theorem puts_succ (key value : Nat → Bytes) (n : Nat) :
    puts key value (n + 1) = puts key value n ++ [.put (key n) (value n)] := by
  rw [puts, List.range_succ, List.map_append]
  rfl

end Mutation

namespace Keyspace

open Mutation

theorem get?_puts (key value : Nat → Bytes) (n : Nat) (k v : Bytes) :
    (empty.applyAll (puts key value n)).get? k = some v ↔
      ∃ i < n, key i = k ∧ value i = v ∧ ∀ j < n, key j = k → j ≤ i := by
  induction n with
  | zero =>
    rw [show empty.applyAll (puts key value 0) = empty from rfl, get?_empty]
    simp
  | succ n ih =>
    have hstep : (empty.applyAll (puts key value (n + 1))).get? k =
        if key n = k then some (value n) else (empty.applyAll (puts key value n)).get? k := by
      rw [puts_succ, applyAll_append]
      exact get?_apply (empty.applyAll (puts key value n)) (.put (key n) (value n)) k
    rw [hstep]
    split
    · rename_i hkey
      rw [Option.some.injEq]
      constructor
      · rintro rfl
        exact ⟨n, Nat.lt_succ_self n, hkey, rfl, fun j hj _ => Nat.le_of_lt_succ hj⟩
      · rintro ⟨i, hi, _, rfl, hgreatest⟩
        rw [Nat.le_antisymm (Nat.le_of_lt_succ hi) (hgreatest n (Nat.lt_succ_self n) hkey)]
    · rename_i hkey
      have hbefore : ∀ {i}, i < n + 1 → key i = k → i < n := by
        rintro i hi rfl
        refine Nat.lt_of_le_of_ne (Nat.le_of_lt_succ hi) ?_
        rintro rfl
        exact hkey rfl
      rw [ih]
      constructor
      · rintro ⟨i, hi, hk, hv, hgreatest⟩
        exact ⟨i, Nat.lt_succ_of_lt hi, hk, hv, fun j hj hkj => hgreatest j (hbefore hj hkj) hkj⟩
      · rintro ⟨i, hi, hk, hv, hgreatest⟩
        exact ⟨i, hbefore hi hk, hk, hv, fun j hj => hgreatest j (Nat.lt_succ_of_lt hj)⟩

/-- A map has the entries of a list if it finds them and nothing else. -/
theorem perm_entries {m : Keyspace} {entries : List Entry} (hnodup : entries.Nodup)
    (h : ∀ key value, m.get? key = some value ↔ (key, value) ∈ entries) :
    m.entries.Perm entries := by
  refine (List.perm_ext_iff_of_nodup m.ascending.nodup hnodup).mpr fun entry => ?_
  rw [← h, get?_eq_some_iff]

end Keyspace

namespace Store

variable {s s' : Store} {id : SessionId} {m : Keyspace}

/-! ## Offering a map -/

/-- The engine of an open session is in order, has the map and grants all writes. -/
def Offers (s : Store) (id : SessionId) (m : Keyspace) : Prop :=
  s.verdicts.GrantsWrites ∧ ∃ engine, s.roster.engine? id = some engine ∧
    engine.access s.volume = .ok () ∧ engine.latest = m

namespace Offers

theorem congr (h : s.Offers id m) (hengine : s'.roster.engine? id = s.roster.engine? id)
    (hvolume : s'.volume = s.volume) (hverdicts : s'.verdicts = s.verdicts) : s'.Offers id m := by
  unfold Offers
  rw [hengine, hvolume, hverdicts]
  exact h

theorem session (h : s.Offers id m) :
    ∃ session, s.sessions.get? id = some session ∧
      session.engine.access s.volume = .ok () ∧ session.engine.latest = m := by
  obtain ⟨_, engine, hengine, haccess, hlatest⟩ := h
  obtain ⟨session, hsession, rfl⟩ := Option.map_eq_some_iff.mp hengine
  exact ⟨session, hsession, haccess, hlatest⟩

theorem isOpen (h : s.Offers id m) : s.isOpen id = true := by
  obtain ⟨session, hsession, _⟩ := h.session
  exact isOpen_iff_session.mpr ⟨session, hsession⟩

theorem checkRead (h : s.Offers id m) : s.checkRead id none = .ok () := by
  rw [Store.checkRead, if_pos h.isOpen]

theorem trouble (h : s.Offers id m) : s.trouble id = none := by
  obtain ⟨_, engine, hengine, haccess, _⟩ := h
  rw [Store.trouble, hengine, Option.bind_some, haccess]

/-- The latest state is the map, and it can be opened again. -/
theorem latest (h : s.Offers id m) :
    (s.latest id).2 = .ok m ∧ (s.latest id).1.Offers id m := by
  obtain ⟨session, hsession, haccess, hlatest⟩ := h.session
  constructor
  · rw [latest_of_open hsession, Engine.view, haccess, ← hlatest]
    rfl
  · refine h.congr ?_ (volume_latest s id) (verdicts_latest s id)
    have hengine : s.roster.engine? id = some session.engine :=
      Roster.engine?_of_session hsession
    rw [roster_latest, Roster.engine?_modifyEngine, if_pos rfl, hengine, Option.map_some,
      Engine.accessed_of_ok haccess]

/-- A read finds what the map has. -/
theorem get (h : s.Offers id m) (key : Bytes) :
    (s.get id none key).2 = .ok (m.get? key) ∧ (s.get id none key).1.Offers id m := by
  obtain ⟨hview, hoffers⟩ := h.latest
  rw [get_of_ok h.checkRead]
  refine ⟨?_, hoffers⟩
  show (s.latest id).2.map _ = _
  rw [hview]
  rfl

/-- A write succeeds and is applied to the map. -/
theorem commit (h : s.Offers id m) (write : Write) :
    (s.commit id write).2 = .ok () ∧
      (s.commit id write).1.Offers id (m.applyAll write.mutations) := by
  obtain ⟨session, hsession, haccess, hlatest⟩ := h.session
  obtain ⟨hroster, hvolume, houtcome⟩ := commit_of_open hsession write
  have hengine : s.roster.engine? id = some session.engine :=
    Roster.engine?_of_session hsession
  rw [Engine.commit_of_grants haccess (h.1 write.mutations)] at hroster hvolume houtcome
  refine ⟨houtcome, ?_, { session.engine with latest := m.applyAll write.mutations }, ?_, ?_, rfl⟩
  · rw [verdicts_commit]
    exact h.1
  · rw [hroster, Roster.engine?_modifyEngine, if_pos rfl, hengine, ← hlatest]
    rfl
  · rw [hvolume, hlatest]
    exact Engine.access_store haccess _

/-- A new iterator scans the entries of the map. -/
theorem scan (h : s.Offers id m) (hcoherent : s.roster.Coherent) :
    ∃ iterator, (s.iterate id none).2 = .ok iterator ∧
      ((s.iterate id none).1.items iterator).2 = m.entries.map .ok := by
  obtain ⟨hview, hoffers⟩ := h.latest
  obtain ⟨hroster, hvolume, hiterator⟩ := iterate_of_ok h.checkRead
  have hafter : (s.iterate id none).1.Offers id m :=
    hoffers.congr (by rw [hroster]; exact Roster.engine?_addIterator id _ id) hvolume
      ((verdicts_iterate s id none).trans (verdicts_viewAt s id none).symm)
  obtain ⟨_, hstands⟩ := stands_of_makes hcoherent (.iterate hiterator)
  have hscanned := scanned_of_stands hstands
  refine ⟨_, hiterator, ?_⟩
  rw [hscanned.items, hafter.trouble, show (s.viewAt id none).2 = .ok m from hview]
  rw [show (s.viewAt id none).2 = .ok m from hview] at hscanned
  exact hscanned.calm .unpositioned rfl

end Offers

/-- A new database in memory offers nothing. -/
theorem offers_of_openInMemory (hgrants : s.verdicts.GrantsWrites) {options : Options}
    (h : s.openInMemory options = (s', .ok id)) : s'.Offers id .empty := by
  rcases openInMemory_spec s options with ⟨t, heq, _, hopened⟩ | ⟨t, e, heq, _, _⟩
  · obtain ⟨rfl, hid⟩ := Prod.mk.inj (h.symm.trans heq)
    obtain ⟨logger, options', hroster⟩ := hopened.roster
    refine ⟨hopened.verdicts ▸ hgrants, .inMemory, ?_, (Engine.sits_inMemory _).access, rfl⟩
    rw [hroster, Roster.engine?_openSession]
    exact if_pos (Except.ok.inj hid)
  · rw [heq] at h
    simp at h

end Store

end OrderedStore
