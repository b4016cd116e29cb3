import OrderedStore.Proofs.Store.Roster

/-!
# Leases

`Roster.Leased` is the invariant of the leases of a roster.  Every lease has one
borrower, and it has a view as long as the borrower's session is open.  An open session has
the leases of its own borrowers in its list, each once, and of nobody else's; what
else is in the list are leases that have been given up, and these do not come back.

The invariant reads a roster through `owner?`, `lease?`, `leasesOf` and the leases
alone.  So there is one lemma for a new borrower and one for a borrower that goes, for
snapshots and iterators alike.
-/

set_option autoImplicit false

namespace OrderedStore.Roster

/-- Borrowers and leases belong together one to one. -/
structure Leased (r : Roster) : Prop where
  /-- A borrower's lease is there, with a view if the session is open. -/
  held : ∀ {b : Borrower} {id : SessionId} {lease : LeaseId}, r.owner? b = some id →
    r.lease? b = some lease →
    ∃ view, r.leases.get? lease = some ⟨view⟩ ∧ view.isSome = r.isOpen id
  owned : ∀ {b : Borrower} {lease : LeaseId}, r.lease? b = some lease →
    ∃ id, r.owner? b = some id
  unique : ∀ {b b' : Borrower} {lease : LeaseId}, r.lease? b = some lease →
    r.lease? b' = some lease → b = b'
  borrowed : ∀ {lease : LeaseId}, r.isHeld lease = true → ∃ b, r.lease? b = some lease
  listed : ∀ {b : Borrower} {id : SessionId} {leases : List LeaseId} {lease : LeaseId},
    r.leasesOf id = some leases → r.owner? b = some id → r.lease? b = some lease →
    lease ∈ leases
  own : ∀ {b : Borrower} {id : SessionId} {leases : List LeaseId} {lease : LeaseId},
    r.leasesOf id = some leases → lease ∈ leases → r.lease? b = some lease →
    r.owner? b = some id
  lt_next : ∀ {id : SessionId} {leases : List LeaseId} {lease : LeaseId},
    r.leasesOf id = some leases → lease ∈ leases → lease.number < r.leases.next
  nodup : ∀ {id : SessionId} {leases : List LeaseId}, r.leasesOf id = some leases →
    leases.Nodup

theorem isOpen_eq_isSome_leasesOf (r : Roster) (id : SessionId) :
    r.isOpen id = (r.leasesOf id).isSome := by
  unfold isOpen leasesOf
  cases r.sessions.get? id <;> rfl

theorem isHeld_eq_true_iff {r : Roster} {lease : LeaseId} :
    r.isHeld lease = true ↔ ∃ row, r.leases.get? lease = some row :=
  Option.isSome_iff_exists

namespace Leased

variable {r r' : Roster}

theorem isHeld (h : r.Leased) {b : Borrower} {lease : LeaseId}
    (hlease : r.lease? b = some lease) : r.isHeld lease = true := by
  obtain ⟨id, howner⟩ := h.owned hlease
  obtain ⟨view, hget, _⟩ := h.held howner hlease
  exact isHeld_eq_true_iff.mpr ⟨_, hget⟩

theorem ne_fresh (h : r.Leased) (hwell : r.leases.WellFormed) {b : Borrower} {lease : LeaseId}
    (hlease : r.lease? b = some lease) : lease ≠ r.leases.fresh := by
  obtain ⟨row, hget⟩ := isHeld_eq_true_iff.mp (h.isHeld hlease)
  exact hwell.ne_fresh hget

/-! ## Rosters that look the same -/

/-- The owners of borrowers without a lease do not matter. -/
theorem congr_of_lease (h : r.Leased) (hlease : ∀ b, r'.lease? b = r.lease? b)
    (howner : ∀ b, r.lease? b ≠ none → r'.owner? b = r.owner? b)
    (hleases : r'.leases = r.leases) (hlists : ∀ id, r'.leasesOf id = r.leasesOf id) :
    r'.Leased := by
  have hopen : ∀ id, r'.isOpen id = r.isOpen id := by
    intro id
    rw [isOpen_eq_isSome_leasesOf, hlists, isOpen_eq_isSome_leasesOf]
  constructor
  case held =>
    intro b id lease hid hl
    rw [hlease] at hl
    rw [howner b (by simp [hl])] at hid
    rw [hleases, hopen]
    exact h.held hid hl
  case owned =>
    intro b lease hl
    rw [hlease] at hl
    rw [howner b (by simp [hl])]
    exact h.owned hl
  case unique =>
    intro b b' lease hl hl'
    rw [hlease] at hl hl'
    exact h.unique hl hl'
  case borrowed =>
    intro lease hheld
    have hheld' : r.isHeld lease = true := by
      unfold Roster.isHeld at hheld ⊢
      rwa [hleases] at hheld
    obtain ⟨b, hb⟩ := h.borrowed hheld'
    exact ⟨b, by rw [hlease]; exact hb⟩
  case listed =>
    intro b id leases lease hlist hid hl
    rw [hlists] at hlist
    rw [hlease] at hl
    rw [howner b (by simp [hl])] at hid
    exact h.listed hlist hid hl
  case own =>
    intro b id leases lease hlist hmem hl
    rw [hlists] at hlist
    rw [hlease] at hl
    rw [howner b (by simp [hl])]
    exact h.own hlist hmem hl
  case lt_next =>
    intro id leases lease hlist hmem
    rw [hlists] at hlist
    rw [hleases]
    exact h.lt_next hlist hmem
  case nodup =>
    intro id leases hlist
    rw [hlists] at hlist
    exact h.nodup hlist

theorem congr (h : r.Leased) (howner : ∀ b, r'.owner? b = r.owner? b)
    (hlease : ∀ b, r'.lease? b = r.lease? b) (hleases : r'.leases = r.leases)
    (hlists : ∀ id, r'.leasesOf id = r.leasesOf id) : r'.Leased :=
  h.congr_of_lease hlease (fun b _ => howner b) hleases hlists

theorem viewOf_congr (hlease : ∀ b, r'.lease? b = r.lease? b) (hleases : r'.leases = r.leases)
    (b : Borrower) : r'.viewOf b = r.viewOf b := by
  unfold viewOf view?
  rw [hlease, hleases]

/-! ## A new borrower -/

section Add

variable {b : Borrower} {id : SessionId} {view : Keyspace} {leases : List LeaseId}

/-- A lease is the new one, or it belongs to one of the old borrowers. -/
theorem lease?_cases
    (hlease : ∀ b', r'.lease? b' = if b' = b then some r.leases.fresh else r.lease? b')
    {b' : Borrower} {lease : LeaseId} (hl : r'.lease? b' = some lease) :
    b' = b ∧ lease = r.leases.fresh ∨ b' ≠ b ∧ r.lease? b' = some lease := by
  rw [hlease] at hl
  split at hl
  · rename_i heq
    exact Or.inl ⟨heq, (Option.some.inj hl).symm⟩
  · rename_i hne
    exact Or.inr ⟨hne, hl⟩

/-- What is on a list was there before, or it is the new lease. -/
theorem mem_list_cases (hlist : r.leasesOf id = some leases)
    (hlists : ∀ id', r'.leasesOf id' =
      if id' = id then some (leases.filter r.isHeld ++ [r.leases.fresh]) else r.leasesOf id')
    {owner : SessionId} {listed : List LeaseId} {lease : LeaseId}
    (hlist' : r'.leasesOf owner = some listed) (hmem : lease ∈ listed) :
    (∃ before, r.leasesOf owner = some before ∧ lease ∈ before) ∨
      owner = id ∧ lease = r.leases.fresh := by
  rw [hlists] at hlist'
  split at hlist'
  · rename_i heq
    subst heq
    obtain rfl := Option.some.inj hlist'
    rcases List.mem_append.mp hmem with hmem | hmem
    · exact Or.inl ⟨leases, hlist, List.mem_of_mem_filter hmem⟩
    · exact Or.inr ⟨rfl, List.mem_singleton.mp hmem⟩
  · exact Or.inl ⟨listed, hlist', hmem⟩

/-- What was on a list and is still held stays there, and the session has the new lease, too. -/
theorem mem_list (hlist : r.leasesOf id = some leases)
    (hlists : ∀ id', r'.leasesOf id' =
      if id' = id then some (leases.filter r.isHeld ++ [r.leases.fresh]) else r.leasesOf id')
    {owner : SessionId} {listed : List LeaseId} (hlist' : r'.leasesOf owner = some listed) :
    (owner = id → r.leases.fresh ∈ listed) ∧
      ∃ before, r.leasesOf owner = some before ∧
        ∀ lease ∈ before, r.isHeld lease = true → lease ∈ listed := by
  rw [hlists] at hlist'
  split at hlist'
  · rename_i heq
    subst heq
    obtain rfl := Option.some.inj hlist'
    exact ⟨fun _ => List.mem_append_right _ List.mem_cons_self, leases, hlist,
      fun lease hmem hheld => List.mem_append_left _ (List.mem_filter.mpr ⟨hmem, hheld⟩)⟩
  · rename_i hne
    exact ⟨fun heq => absurd heq hne, listed, hlist', fun lease hmem _ => hmem⟩

/-- A session lends a view to a new borrower under a new lease, and forgets the leases that
nobody holds any more. -/
theorem add (h : r.Leased) (hwell : r.leases.WellFormed) (hlist : r.leasesOf id = some leases)
    (hnew : r.owner? b = none)
    (howner : ∀ b', r'.owner? b' = if b' = b then some id else r.owner? b')
    (hlease : ∀ b', r'.lease? b' = if b' = b then some r.leases.fresh else r.lease? b')
    (hleases : r'.leases = r.leases.insert (.of view))
    (hlists : ∀ id', r'.leasesOf id' =
      if id' = id then some (leases.filter r.isHeld ++ [r.leases.fresh]) else r.leasesOf id') :
    r'.Leased := by
  have hopen : ∀ id', r'.isOpen id' = r.isOpen id' := by
    intro id'
    rw [isOpen_eq_isSome_leasesOf, isOpen_eq_isSome_leasesOf, hlists]
    split
    · rename_i heq
      rw [heq, hlist]
      rfl
    · rfl
  -- A lease that was there before belongs to an old borrower.
  have hold : ∀ {b' : Borrower} {lease : LeaseId}, r.lease? b' = some lease → b' ≠ b := by
    rintro b' lease hl rfl
    obtain ⟨owner, ho⟩ := h.owned hl
    rw [hnew] at ho
    simp at ho
  constructor
  case held =>
    intro b' owner lease ho hl
    rw [howner] at ho
    rw [hleases, hopen]
    rcases lease?_cases hlease hl with ⟨rfl, rfl⟩ | ⟨hne, hl⟩
    · rw [if_pos rfl] at ho
      obtain rfl := Option.some.inj ho
      refine ⟨some view, r.leases.get?_insert_fresh _, ?_⟩
      rw [isOpen_eq_isSome_leasesOf, hlist]
      rfl
    · rw [if_neg hne] at ho
      rw [r.leases.get?_insert_of_ne _ (h.ne_fresh hwell hl)]
      exact h.held ho hl
  case owned =>
    intro b' lease hl
    rw [howner]
    rcases lease?_cases hlease hl with ⟨rfl, _⟩ | ⟨hne, hl⟩
    · exact ⟨id, if_pos rfl⟩
    · rw [if_neg hne]
      exact h.owned hl
  case unique =>
    intro b₁ b₂ lease h₁ h₂
    rcases lease?_cases hlease h₁ with ⟨rfl, rfl⟩ | ⟨_, h₁⟩ <;>
      rcases lease?_cases hlease h₂ with ⟨rfl, hfresh⟩ | ⟨_, h₂⟩
    · rfl
    · exact absurd rfl (h.ne_fresh hwell h₂)
    · exact absurd hfresh (h.ne_fresh hwell h₁)
    · exact h.unique h₁ h₂
  case borrowed =>
    intro lease hheld
    by_cases hfresh : lease = r.leases.fresh
    · exact ⟨b, by rw [hlease, if_pos rfl, hfresh]⟩
    · unfold Roster.isHeld at hheld
      rw [hleases, r.leases.get?_insert_of_ne _ hfresh] at hheld
      obtain ⟨b', hb'⟩ := h.borrowed hheld
      exact ⟨b', by rw [hlease, if_neg (hold hb')]; exact hb'⟩
  case listed =>
    intro b' owner listed lease hlist' ho hl
    obtain ⟨hfresh, before, hbefore, hkept⟩ := mem_list hlist hlists hlist'
    rw [howner] at ho
    rcases lease?_cases hlease hl with ⟨rfl, rfl⟩ | ⟨hne, hl⟩
    · rw [if_pos rfl] at ho
      exact hfresh (Option.some.inj ho).symm
    · rw [if_neg hne] at ho
      exact hkept lease (h.listed hbefore ho hl) (h.isHeld hl)
  case own =>
    intro b' owner listed lease hlist' hmem hl
    rw [howner]
    rcases lease?_cases hlease hl with ⟨rfl, rfl⟩ | ⟨hne, hl⟩ <;>
      rcases mem_list_cases hlist hlists hlist' hmem with
        ⟨before, hbefore, hmem⟩ | ⟨rfl, hfresh⟩
    · exact absurd (h.lt_next hbefore hmem) (Nat.lt_irrefl _)
    · exact if_pos rfl
    · rw [if_neg hne]
      exact h.own hbefore hmem hl
    · exact absurd hfresh (h.ne_fresh hwell hl)
  case lt_next =>
    intro owner listed lease hlist' hmem
    rw [hleases]
    show lease.number < r.leases.next + 1
    rcases mem_list_cases hlist hlists hlist' hmem with ⟨before, hbefore, hmem⟩ | ⟨_, rfl⟩
    · exact Nat.lt_succ_of_lt (h.lt_next hbefore hmem)
    · exact Nat.lt_succ_self _
  case nodup =>
    intro owner listed hlist'
    rw [hlists] at hlist'
    split at hlist'
    · obtain rfl := Option.some.inj hlist'
      refine List.nodup_append.mpr ⟨(h.nodup hlist).filter _, List.nodup_singleton _, ?_⟩
      intro lease hmem fresh hfresh heq
      have hlt := h.lt_next hlist (List.mem_of_mem_filter hmem)
      rw [heq, List.mem_singleton.mp hfresh] at hlt
      exact absurd hlt (Nat.lt_irrefl _)
    · exact h.nodup hlist'

/-- A new borrower without a lease. -/
theorem addBare (h : r.Leased) (hnew : r.owner? b = none)
    (howner : ∀ b', r'.owner? b' = if b' = b then some id else r.owner? b')
    (hlease : ∀ b', r'.lease? b' = if b' = b then none else r.lease? b')
    (hleases : r'.leases = r.leases) (hlists : ∀ id', r'.leasesOf id' = r.leasesOf id') :
    r'.Leased := by
  have hnone : r.lease? b = none := by
    cases hl : r.lease? b with
    | none => rfl
    | some lease =>
      obtain ⟨owner, ho⟩ := h.owned hl
      rw [hnew] at ho
      simp at ho
  have hlease' : ∀ b', r'.lease? b' = r.lease? b' := by
    intro b'
    rw [hlease]
    split
    · rename_i heq
      rw [heq, hnone]
    · rfl
  exact h.congr_of_lease hlease'
    (fun b' hl => by
      rw [howner, if_neg]
      rintro rfl
      exact hl hnone) hleases hlists

theorem viewOf_add (h : r.Leased) (hwell : r.leases.WellFormed)
    (hlease : ∀ b', r'.lease? b' = if b' = b then some r.leases.fresh else r.lease? b')
    (hleases : r'.leases = r.leases.insert (.of view)) (b' : Borrower) :
    r'.viewOf b' = if b' = b then some view else r.viewOf b' := by
  unfold viewOf view?
  rw [hlease, hleases]
  split
  · simp [Lease.of]
  · cases hl : r.lease? b' with
    | none => rfl
    | some lease =>
      simp only [Option.bind_some]
      rw [r.leases.get?_insert_of_ne _ (h.ne_fresh hwell hl)]

end Add

/-! ## A borrower that goes -/

section Remove

variable {b : Borrower} {lease : LeaseId}

/-- A borrower goes and gives its lease up. -/
theorem remove (h : r.Leased) (hb : r.lease? b = some lease)
    (howner : ∀ b', r'.owner? b' = if b' = b then none else r.owner? b')
    (hlease : ∀ b', r'.lease? b' = if b' = b then none else r.lease? b')
    (hleases : r'.leases = r.leases.erase lease)
    (hlists : ∀ id, r'.leasesOf id = r.leasesOf id) : r'.Leased := by
  have hopen : ∀ id, r'.isOpen id = r.isOpen id := by
    intro id
    rw [isOpen_eq_isSome_leasesOf, hlists, isOpen_eq_isSome_leasesOf]
  have hkept : ∀ {b' : Borrower} {lease' : LeaseId}, r'.lease? b' = some lease' →
      b' ≠ b ∧ r.lease? b' = some lease' := by
    intro b' lease' hl
    rw [hlease] at hl
    split at hl
    · simp at hl
    · rename_i hne
      exact ⟨hne, hl⟩
  have hother : ∀ {b' : Borrower} {lease' : LeaseId}, b' ≠ b → r.lease? b' = some lease' →
      lease' ≠ lease := by
    rintro b' lease' hne hl rfl
    exact hne (h.unique hl hb)
  constructor
  case held =>
    intro b' id lease' ho hl
    obtain ⟨hne, hl⟩ := hkept hl
    rw [howner, if_neg hne] at ho
    rw [hleases, hopen, r.leases.get?_erase_of_ne (hother hne hl)]
    exact h.held ho hl
  case owned =>
    intro b' lease' hl
    obtain ⟨hne, hl⟩ := hkept hl
    rw [howner, if_neg hne]
    exact h.owned hl
  case unique =>
    intro b₁ b₂ lease' h₁ h₂
    exact h.unique (hkept h₁).2 (hkept h₂).2
  case borrowed =>
    intro lease' hheld
    unfold Roster.isHeld at hheld
    rw [hleases, r.leases.get?_erase] at hheld
    split at hheld
    · simp at hheld
    · rename_i hne
      obtain ⟨b', hb'⟩ := h.borrowed hheld
      have hne' : b' ≠ b := by
        rintro rfl
        rw [hb] at hb'
        exact hne (Option.some.inj hb').symm
      exact ⟨b', by rw [hlease, if_neg hne']; exact hb'⟩
  case listed =>
    intro b' id leases lease' hlist ho hl
    obtain ⟨hne, hl⟩ := hkept hl
    rw [howner, if_neg hne] at ho
    rw [hlists] at hlist
    exact h.listed hlist ho hl
  case own =>
    intro b' id leases lease' hlist hmem hl
    obtain ⟨hne, hl⟩ := hkept hl
    rw [hlists] at hlist
    rw [howner, if_neg hne]
    exact h.own hlist hmem hl
  case lt_next =>
    intro id leases lease' hlist hmem
    rw [hlists] at hlist
    rw [hleases]
    exact h.lt_next hlist hmem
  case nodup =>
    intro id leases hlist
    rw [hlists] at hlist
    exact h.nodup hlist

/-- A borrower without a lease goes. -/
theorem removeBare (h : r.Leased) (hb : r.lease? b = none)
    (howner : ∀ b', r'.owner? b' = if b' = b then none else r.owner? b')
    (hlease : ∀ b', r'.lease? b' = if b' = b then none else r.lease? b')
    (hleases : r'.leases = r.leases) (hlists : ∀ id, r'.leasesOf id = r.leasesOf id) :
    r'.Leased := by
  have hlease' : ∀ b', r'.lease? b' = r.lease? b' := by
    intro b'
    rw [hlease]
    split
    · rename_i heq
      rw [heq, hb]
    · rfl
  exact h.congr_of_lease hlease'
    (fun b' hl => by
      rw [howner, if_neg]
      rintro rfl
      exact hl hb) hleases hlists

theorem viewOf_remove (h : r.Leased) (hb : r.lease? b = some lease)
    (hlease : ∀ b', r'.lease? b' = if b' = b then none else r.lease? b')
    (hleases : r'.leases = r.leases.erase lease) (b' : Borrower) :
    r'.viewOf b' = if b' = b then none else r.viewOf b' := by
  unfold viewOf view?
  rw [hlease, hleases]
  split
  · rfl
  · rename_i hne
    cases hl : r.lease? b' with
    | none => rfl
    | some lease' =>
      have hne' : lease' ≠ lease := by
        rintro rfl
        exact hne (h.unique hl hb)
      simp only [Option.bind_some]
      rw [r.leases.get?_erase_of_ne hne']

end Remove

/-! ## Sessions that come and go -/

/-- A new session has no borrowers and an empty list. -/
theorem openSession {id : SessionId} (h : r.Leased) (hnone : ∀ b, r.owner? b ≠ some id)
    (howner : ∀ b, r'.owner? b = r.owner? b) (hlease : ∀ b, r'.lease? b = r.lease? b)
    (hleases : r'.leases = r.leases)
    (hlists : ∀ id', r'.leasesOf id' = if id' = id then some [] else r.leasesOf id') :
    r'.Leased := by
  have hopen : ∀ {id'}, id' ≠ id → r'.isOpen id' = r.isOpen id' := by
    intro id' hne
    rw [isOpen_eq_isSome_leasesOf, isOpen_eq_isSome_leasesOf, hlists, if_neg hne]
  have howned : ∀ {b : Borrower} {id' : SessionId}, r'.owner? b = some id' →
      id' ≠ id ∧ r.owner? b = some id' := by
    intro b id' ho
    rw [howner] at ho
    refine ⟨?_, ho⟩
    rintro rfl
    exact hnone b ho
  constructor
  case held =>
    intro b id' lease ho hl
    obtain ⟨hne, ho⟩ := howned ho
    rw [hlease] at hl
    rw [hleases, hopen hne]
    exact h.held ho hl
  case owned =>
    intro b lease hl
    rw [hlease] at hl
    rw [howner]
    exact h.owned hl
  case unique =>
    intro b b' lease hl hl'
    rw [hlease] at hl hl'
    exact h.unique hl hl'
  case borrowed =>
    intro lease hheld
    have hheld' : r.isHeld lease = true := by
      unfold Roster.isHeld at hheld ⊢
      rwa [hleases] at hheld
    obtain ⟨b, hb⟩ := h.borrowed hheld'
    exact ⟨b, by rw [hlease]; exact hb⟩
  case listed =>
    intro b id' leases lease hlist ho hl
    obtain ⟨hne, ho⟩ := howned ho
    rw [hlists, if_neg hne] at hlist
    rw [hlease] at hl
    exact h.listed hlist ho hl
  case own =>
    intro b id' leases lease hlist hmem hl
    rw [hlists] at hlist
    rw [hlease] at hl
    split at hlist
    · rw [← Option.some.inj hlist] at hmem
      exact absurd hmem List.not_mem_nil
    · rw [howner]
      exact h.own hlist hmem hl
  case lt_next =>
    intro id' leases lease hlist hmem
    rw [hlists] at hlist
    rw [hleases]
    split at hlist
    · rw [← Option.some.inj hlist] at hmem
      exact absurd hmem List.not_mem_nil
    · exact h.lt_next hlist hmem
  case nodup =>
    intro id' leases hlist
    rw [hlists] at hlist
    split at hlist
    · rw [← Option.some.inj hlist]
      exact List.nodup_nil
    · exact h.nodup hlist

section EndSession

variable {id : SessionId} {leases : List LeaseId}

/-- A session that ends has the leases in its list revoked. -/
theorem endSession (h : r.Leased) (hlist : r.leasesOf id = some leases)
    (howner : ∀ b, r'.owner? b = r.owner? b) (hlease : ∀ b, r'.lease? b = r.lease? b)
    (hget : ∀ lease, r'.leases.get? lease =
      (r.leases.get? lease).map fun row => if lease ∈ leases then .revoked else row)
    (hnext : r'.leases.next = r.leases.next)
    (hlists : ∀ id', r'.leasesOf id' = if id' = id then none else r.leasesOf id') :
    r'.Leased := by
  have hother : ∀ {id' : SessionId} {listed : List LeaseId}, r'.leasesOf id' = some listed →
      r.leasesOf id' = some listed := by
    intro id' listed hlist'
    rw [hlists] at hlist'
    split at hlist'
    · simp at hlist'
    · exact hlist'
  constructor
  case held =>
    intro b id' lease ho hl
    rw [howner] at ho
    rw [hlease] at hl
    obtain ⟨view, hview, hopen⟩ := h.held ho hl
    rw [hget, hview, isOpen_eq_isSome_leasesOf, hlists]
    by_cases hid : id' = id
    · subst hid
      refine ⟨none, ?_, by rw [if_pos rfl]; rfl⟩
      rw [Option.map_some, if_pos (h.listed hlist ho hl)]
      rfl
    · have hnotmem : lease ∉ leases := by
        intro hmem
        have hown := h.own hlist hmem hl
        rw [ho] at hown
        exact hid (Option.some.inj hown)
      refine ⟨view, by rw [Option.map_some, if_neg hnotmem], ?_⟩
      rw [if_neg hid, ← isOpen_eq_isSome_leasesOf]
      exact hopen
  case owned =>
    intro b lease hl
    rw [hlease] at hl
    rw [howner]
    exact h.owned hl
  case unique =>
    intro b b' lease hl hl'
    rw [hlease] at hl hl'
    exact h.unique hl hl'
  case borrowed =>
    intro lease hheld
    unfold Roster.isHeld at hheld
    rw [hget, Option.isSome_map] at hheld
    obtain ⟨b, hb⟩ := h.borrowed hheld
    exact ⟨b, by rw [hlease]; exact hb⟩
  case listed =>
    intro b id' listed lease hlist' ho hl
    rw [howner] at ho
    rw [hlease] at hl
    exact h.listed (hother hlist') ho hl
  case own =>
    intro b id' listed lease hlist' hmem hl
    rw [hlease] at hl
    rw [howner]
    exact h.own (hother hlist') hmem hl
  case lt_next =>
    intro id' listed lease hlist' hmem
    rw [hnext]
    exact h.lt_next (hother hlist') hmem
  case nodup =>
    intro id' listed hlist'
    exact h.nodup (hother hlist')

theorem viewOf_endSession (h : r.Leased) (hlist : r.leasesOf id = some leases)
    (hlease : ∀ b, r'.lease? b = r.lease? b)
    (hget : ∀ lease, r'.leases.get? lease =
      (r.leases.get? lease).map fun row => if lease ∈ leases then .revoked else row)
    (b : Borrower) :
    r'.viewOf b = if r.owner? b = some id then none else r.viewOf b := by
  unfold viewOf view?
  rw [hlease]
  cases hl : r.lease? b with
  | none => simp
  | some lease =>
    obtain ⟨id', ho⟩ := h.owned hl
    simp only [Option.bind_some, hget]
    by_cases hid : id' = id
    · subst hid
      have hmem := h.listed hlist ho hl
      rw [if_pos ho]
      cases r.leases.get? lease <;> simp [hmem, Lease.revoked]
    · have hne : r.owner? b ≠ some id := by
        rw [ho]
        exact fun heq => hid (Option.some.inj heq)
      have hnotmem : lease ∉ leases := fun hmem => hne (h.own hlist hmem hl)
      rw [if_neg hne]
      simp [hnotmem]

end EndSession

end Leased

end OrderedStore.Roster
