import OrderedStore.Proofs.Gateway.Provenance

/-!
# Tokens that stand for nothing

`Gateway.Unknown` says that a token is not null and finds nothing under any kind.  Every call
that looks such a token up is answered that a handle is invalid, whatever its other
tokens are as long as they are not null (`code_serve_of_unknown`), and a token that has
been taken back is unknown from then on (`Desk.Attends.unknown_of_spent`).

Only the release of a snapshot may leave a token without looking at it: where the snapshot
is null there is nothing to release, and the database is not asked for.
-/

set_option autoImplicit false

namespace OrderedStore

/-- The tokens that a call brings along.  A null token in the place of a snapshot to read
through is none. -/
def Call.tokens : Call → List Token
  | .close t | .put t _ _ _ | .delete t _ _ | .property t _ _ | .snapshot t _ | .seek t _
  | .first t | .last t | .next t | .prev t | .isValid t _ | .key t _ | .value t _ | .status t
  | .freeIterator t | .batchPut t _ _ | .batchDelete t _ | .clearBatch t | .countBatch t _
  | .freeBatch t => [t]
  | .get t u _ _ | .iterate t _ u _ => if u = 0 then [t] else [t, u]
  | .write t _ u | .releaseSnapshot t u => [t, u]
  | _ => []

/-- Does the call come to look its tokens up?  It looks at the place for its output before,
and a seek at its key. -/
def Call.looksUp : Call → Bool
  | .get _ _ _ place | .property _ _ place | .iterate _ _ _ place | .isValid _ place
  | .key _ place | .value _ place | .snapshot _ place | .countBatch _ place => place
  | .seek _ slice => (slice.read .key).toBool
  | _ => true

namespace Gateway

variable {g : Gateway} {t u : Token} {call : Call}

/-- The token is not null and stands for nothing of any kind. -/
structure Unknown (g : Gateway) (t : Token) : Prop where
  ne_zero : t ≠ 0
  database : ∀ id, g.databases.get t ≠ .ok id
  iterator : ∀ child, g.iterators.get t ≠ .ok child
  snapshot : ∀ child, g.snapshots.get t ≠ .ok child
  batch : ∀ batch, g.batches.get t ≠ .ok batch

/-! ## Looking up -/

section Find

variable {α : Type} {r : Registry α} {output : Output} {go : α → Gateway × Reply}

theorem invalid_of_get_error {fault : HandleFault} (ht : t ≠ 0) (hget : r.get t = .error fault) :
    ResultCode.ofHandleFault fault = .invalidHandle := by
  unfold Registry.get at hget
  cases hlocate : r.locate t with
  | ok found => simp [hlocate, Except.map] at hget
  | error fault' =>
    rw [hlocate] at hget
    rw [← Except.error.inj hget, Registry.locate_error hlocate, Registry.faultOf, if_neg ht]
    split <;> rfl

/-- Looking up a token that is not null finds something, or the handle is invalid. -/
theorem code_withFound_find (ht : t ≠ 0)
    (hgo : ∀ v, r.get t = .ok v → (go v).2.code = .invalidHandle) :
    (g.withFound output (find r t) go).2.code = .invalidHandle := by
  unfold find
  cases hget : r.get t with
  | ok v => exact hgo v hget
  | error fault => exact invalid_of_get_error ht hget

theorem code_withFound_of_vacant (ht : t ≠ 0) (hvacant : ∀ v, r.get t ≠ .ok v) :
    (g.withFound output (find r t) go).2.code = .invalidHandle :=
  code_withFound_find ht fun v hget => absurd hget (hvacant v)

end Find

namespace Unknown

variable {output : Output}

theorem onDatabase (h : g.Unknown u) {go : SessionId → Gateway × Reply} :
    (g.withFound output (find g.databases u) go).2.code = .invalidHandle :=
  code_withFound_of_vacant h.ne_zero h.database

theorem onIterator (h : g.Unknown u) {go : Child IteratorId → Gateway × Reply} :
    (g.withFound output (find g.iterators u) go).2.code = .invalidHandle :=
  code_withFound_of_vacant h.ne_zero h.iterator

theorem onBatch (h : g.Unknown u) {go : Batch → Gateway × Reply} :
    (g.withFound output (find g.batches u) go).2.code = .invalidHandle :=
  code_withFound_of_vacant h.ne_zero h.batch

theorem onSnapshot (h : g.Unknown u) {go : Option SnapshotId → Gateway × Reply} :
    (g.withFound output (g.snapshotFor t u) go).2.code = .invalidHandle := by
  unfold Gateway.snapshotFor find
  rw [if_neg h.ne_zero]
  cases hget : g.snapshots.get u with
  | ok child => exact absurd hget (h.snapshot child)
  | error fault => exact invalid_of_get_error h.ne_zero hget

/-- A call that goes on from a database to a snapshot meets the token at one of them. -/
theorem onSnapshotOf (h : g.Unknown u) {snapshot : Token} {go : SessionId → Gateway × Reply}
    (hmem : u ∈ if snapshot = 0 then [t] else [t, snapshot])
    (hnull : 0 ∉ if snapshot = 0 then [t] else [t, snapshot])
    (hgo : u = snapshot → ∀ id, (go id).2.code = .invalidHandle) :
    (g.withFound output (find g.databases t) go).2.code = .invalidHandle := by
  have hfirst : u = t ∨ u = snapshot := by
    split at hmem
    · exact Or.inl (List.mem_singleton.mp hmem)
    · simpa using hmem
  have ht : t ≠ 0 := by
    rintro rfl
    split at hnull <;> simp at hnull
  rcases hfirst with rfl | hsnapshot
  · exact h.onDatabase
  · exact code_withFound_find ht fun id _ => hgo hsnapshot id

end Unknown

theorem code_close_of_vacant (ht : t ≠ 0) (hvacant : ∀ id, g.databases.get t ≠ .ok id) :
    (g.close t).2.code = .invalidHandle := by
  cases hlocate : g.databases.locate t with
  | ok found =>
    refine absurd ?_ (hvacant found.2)
    rw [Registry.get, hlocate]
    rfl
  | error fault =>
    have hget : g.databases.get t = .error fault := by
      rw [Registry.get, hlocate]
      rfl
    have hremove : g.databases.remove t = (g.databases, .error fault) := by
      rw [Registry.remove, hlocate]
    rw [Gateway.close, hremove]
    exact invalid_of_get_error ht hget

theorem releasing_of_ne_zero (ht : t ≠ 0) {go : Gateway × Reply} : g.releasing t go = go :=
  if_neg ht

/-! ## Calls -/

/-- A call that looks up a token that stands for nothing fails for an invalid handle. -/
theorem code_perform_of_unknown (h : g.Unknown u) (hmem : u ∈ call.tokens)
    (hnull : 0 ∉ call.tokens) (hlooks : call.looksUp = true) :
    (g.perform call).2.code = .invalidHandle := by
  -- A missing output place comes first, so there is one.
  have hneeding : ∀ {place : Bool} {go : Gateway × Reply}, place = true →
      go.2.code = .invalidHandle → (g.needing place go).2.code = .invalidHandle := by
    rintro place go rfl hgo
    exact hgo
  cases call with
  | openPath | openMemory | destroy | repair | createBatch | installCallback =>
    exact absurd hmem List.not_mem_nil
  | close t =>
    obtain rfl := List.mem_singleton.mp hmem
    rw [perform, releasing_of_ne_zero h.ne_zero]
    exact code_close_of_vacant h.ne_zero h.database
  | put t | delete t =>
    obtain rfl := List.mem_singleton.mp hmem
    exact h.onDatabase
  | property t | snapshot t =>
    obtain rfl := List.mem_singleton.mp hmem
    exact hneeding hlooks h.onDatabase
  | write t sync batch =>
    rcases List.mem_pair.mp hmem with rfl | rfl
    · exact h.onDatabase
    · exact code_withFound_find (fun ht => hnull (ht ▸ List.mem_cons_self)) fun _ _ => h.onBatch
  | get t snapshot key place =>
    refine hneeding hlooks (h.onSnapshotOf hmem hnull fun heq _ => ?_)
    exact heq ▸ h.onSnapshot
  | iterate t fillCache snapshot place =>
    refine hneeding hlooks (h.onSnapshotOf hmem hnull fun heq _ => ?_)
    exact heq ▸ h.onSnapshot
  | seek t slice =>
    obtain rfl := List.mem_singleton.mp hmem
    cases hread : slice.read .key with
    | error failure => simp [Call.looksUp, hread, Except.toBool] at hlooks
    | ok key =>
      have hstep : g.perform (.seek u slice) = g.position u (.seek key) := by
        simp only [perform, hread, withFound]
      rw [hstep]
      exact h.onIterator
  | first t | last t | next t | prev t | status t =>
    obtain rfl := List.mem_singleton.mp hmem
    exact h.onIterator
  | isValid t | key t | value t =>
    obtain rfl := List.mem_singleton.mp hmem
    exact hneeding hlooks h.onIterator
  | freeIterator t =>
    obtain rfl := List.mem_singleton.mp hmem
    rw [perform, releasing_of_ne_zero h.ne_zero]
    exact h.onIterator
  | releaseSnapshot t snapshot =>
    have hsnapshot : snapshot ≠ 0 := fun heq => hnull (heq ▸ by simp [Call.tokens])
    rw [perform, releasing_of_ne_zero hsnapshot]
    rcases List.mem_pair.mp hmem with rfl | rfl
    · exact h.onDatabase
    · exact code_withFound_find (fun ht => hnull (ht ▸ List.mem_cons_self)) fun _ _ =>
        code_withFound_of_vacant h.ne_zero h.snapshot
  | batchPut t | batchDelete t | clearBatch t =>
    obtain rfl := List.mem_singleton.mp hmem
    exact h.onBatch
  | countBatch t =>
    obtain rfl := List.mem_singleton.mp hmem
    exact hneeding hlooks h.onBatch
  | freeBatch t =>
    obtain rfl := List.mem_singleton.mp hmem
    rw [perform, releasing_of_ne_zero h.ne_zero]
    exact h.onBatch

theorem code_serve_of_unknown (h : g.Unknown u) (hmem : u ∈ call.tokens)
    (hnull : 0 ∉ call.tokens) (hlooks : call.looksUp = true) :
    (g.serve call).2.code = .invalidHandle := by
  have hclear : g.clearError.Unknown u :=
    ⟨h.ne_zero, h.database, h.iterator, h.snapshot, h.batch⟩
  rw [reply_serve]
  exact code_perform_of_unknown hclear hmem hnull hlooks

/-- Releasing the null snapshot succeeds without a look at the database. -/
theorem serve_releaseSnapshot_zero (g : Gateway) (t : Token) :
    g.serve (.releaseSnapshot t 0) = ({ g with lastError := none }, ⟨.untouched, none⟩) := rfl

end Gateway

/-! ## Tokens that have been taken back -/

theorem HandleKind.tag_injective : Function.Injective HandleKind.tag := by
  intro kind kind' h
  cases kind <;> cases kind' <;> first | rfl | simp [HandleKind.tag] at h

namespace Desk

variable {d : Desk} {g : Gateway} {t : Token}

/-- A token of one kind finds nothing under the other kinds. -/
theorem Attends.unknown (h : d.Attends g) {kind : HandleKind} (hzero : t ≠ 0)
    (htag : t.tag = kind.tag) (hbatch : kind ≠ .batch)
    (hdatabase : kind = .database → ∀ id, g.databases.get t ≠ .ok id)
    (hiterator : kind = .iterator → ∀ child, g.iterators.get t ≠ .ok child)
    (hsnapshot : kind = .snapshot → ∀ child, g.snapshots.get t ≠ .ok child) : g.Unknown t := by
  have hne : ∀ {kind' : HandleKind}, kind ≠ kind' → t.tag ≠ kind'.tag := fun hkind heq =>
    hkind (HandleKind.tag_injective (htag.symm.trans heq))
  refine ⟨hzero, ?_, ?_, ?_, h.same.batches.get_ne_ok_of_tag_ne (hne hbatch)⟩
  · by_cases hkind : kind = .database
    · exact hdatabase hkind
    · exact h.same.databases.get_ne_ok_of_tag_ne (hne hkind)
  · by_cases hkind : kind = .iterator
    · exact hiterator hkind
    · exact h.same.iterators.get_ne_ok_of_tag_ne (hne hkind)
  · by_cases hkind : kind = .snapshot
    · exact hsnapshot hkind
    · exact h.same.snapshots.get_ne_ok_of_tag_ne (hne hkind)

/-- A token that has been taken back is unknown. -/
theorem Attends.unknown_of_spent (h : d.Attends g)
    (hspent : d.databases.Spent t ∨ d.iterators.Spent t ∨ d.snapshots.Spent t) : g.Unknown t := by
  -- The kind that the token was of is the only one under which it could find anything.
  rcases hspent with hspent | hspent | hspent
  · have hget := h.same.databases.get_of_spent hspent
    exact h.unknown (h.same.databases.ne_zero_of_spent hspent)
      (h.same.databases.tag_eq hspent.issued) (by simp) (fun _ id => by simp [hget]) (by simp)
      (by simp)
  · have hget := h.same.iterators.get_of_spent hspent
    exact h.unknown (h.same.iterators.ne_zero_of_spent hspent)
      (h.same.iterators.tag_eq hspent.issued) (by simp) (by simp) (fun _ child => by simp [hget])
      (by simp)
  · have hget := h.same.snapshots.get_of_spent hspent
    exact h.unknown (h.same.snapshots.ne_zero_of_spent hspent)
      (h.same.snapshots.tag_eq hspent.issued) (by simp) (by simp) (by simp)
      (fun _ child => by simp [hget])

end Desk

end OrderedStore
