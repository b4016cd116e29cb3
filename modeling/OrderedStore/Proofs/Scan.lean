import OrderedStore.Proofs.Standing
import OrderedStore.Proofs.Walk

/-!
# What a scan yields

`Walker.Drains` says what a forward scan yields until it has come to its end, and where the thing
is then.  A scan that comes to its end does so for good: asked any number of times, it gives what
it yields, one item a turn, and after that nothing (`polls_of_drains`).

One thing is scanned as another one is if they move and show alike; once a move has failed nothing
is asked of them any more, so they need not be alike from there on (`Tracks`).

The things that are scanned here are standings among entries whose moves may fail, each with an
error of its own.  What such a scan yields is the `transcript` of the standing.
-/

set_option autoImplicit false

namespace OrderedStore

/-- What so many turns give of something that yields some items and then nothing. -/
def turnsOf {α : Type} (items : List α) (count : Nat) : List (Option α) :=
  (List.range count).map fun turn => items[turn]?

theorem turnsOf_succ {α : Type} (items : List α) (count : Nat) :
    turnsOf items (count + 1) = items.head? :: turnsOf items.tail count := by
  unfold turnsOf
  rw [List.range_succ_eq_map, List.map_cons, List.map_map]
  congr 1
  · cases items <;> rfl
  · refine List.map_congr_left fun turn _ => ?_
    cases items <;> rfl

/-- Enough turns give every item. -/
theorem filterMap_turnsOf {α : Type} {items : List α} {count : Nat} (h : items.length ≤ count) :
    (turnsOf items count).filterMap id = items := by
  induction count generalizing items with
  | zero =>
    obtain rfl := List.eq_nil_of_length_eq_zero (Nat.le_zero.mp h)
    rfl
  | succ count ih =>
    rw [turnsOf_succ]
    cases items with
    | nil => exact ih (Nat.zero_le _)
    | cons item rest =>
      rw [List.filterMap_cons]
      exact congrArg (item :: ·) (ih (Nat.le_of_succ_le_succ h))

namespace Walker

variable {σ τ : Type} {w : Walker σ} {u : Walker τ} {scan : Scan} {s s' : σ} {t t' : τ}
  {items : List (Except Error Entry)} {entry : Entry} {e : Error}

/-! ## One turn -/

theorem poll_of_done (h : scan.done = true) : w.poll scan s = (scan, s, none) := by
  unfold poll
  rw [if_pos h]

theorem poll_of_error (h : scan.done = false) (hmove : w.scanMove scan s = (s', .error e)) :
    w.poll scan s = (⟨true, true⟩, s', some (.error e)) := by
  unfold poll
  rw [if_neg (by simp [h]), hmove]

theorem poll_of_some (h : scan.done = false) (hmove : w.scanMove scan s = (s', .ok ()))
    (hentry : w.entry? s' = some entry) :
    w.poll scan s = (⟨true, false⟩, s', some (.ok entry)) := by
  unfold poll
  rw [if_neg (by simp [h]), hmove]
  simp only [hentry]

theorem poll_of_none (h : scan.done = false) (hmove : w.scanMove scan s = (s', .ok ()))
    (hentry : w.entry? s' = none) : w.poll scan s = (⟨true, true⟩, s', none) := by
  unfold poll
  rw [if_neg (by simp [h]), hmove]
  simp only [hentry]

/-- A turn that gives an entry leaves the thing on it. -/
theorem entry?_of_poll (h : (w.poll scan s).2.2 = some (.ok entry)) :
    w.entry? (w.poll scan s).2.1 = some entry := by
  cases hdone : scan.done with
  | true =>
    rw [poll_of_done hdone] at h
    cases h
  | false =>
    obtain ⟨moved, hmove⟩ : ∃ moved, w.scanMove scan s = moved := ⟨_, rfl⟩
    obtain ⟨s', outcome⟩ := moved
    cases outcome with
    | error e =>
      rw [poll_of_error hdone hmove] at h
      cases h
    | ok _ =>
      cases hentry : w.entry? s' with
      | none =>
        rw [poll_of_none hdone hmove hentry] at h
        cases h
      | some other =>
        rw [poll_of_some hdone hmove hentry] at h ⊢
        obtain rfl := Except.ok.inj (Option.some.inj h)
        exact hentry

/-! ## Whole scans -/

theorem polls_succ (w : Walker σ) (n : Nat) (scan : Scan) (s : σ) :
    w.polls (n + 1) scan s =
      ((w.polls n (w.poll scan s).1 (w.poll scan s).2.1).1,
        (w.poll scan s).2.2 :: (w.polls n (w.poll scan s).1 (w.poll scan s).2.1).2) := rfl

theorem polls_of_done (h : scan.done = true) (n : Nat) :
    w.polls n scan s = (s, turnsOf [] n) := by
  induction n with
  | zero => rfl
  | succ n ih =>
    rw [polls_succ, poll_of_done h, ih, turnsOf_succ]
    rfl

/-- A scan yields some items until its end, and the thing is then in that state. -/
inductive Drains (w : Walker σ) : Scan → σ → List (Except Error Entry) → σ → Prop
  | ended {scan : Scan} {s : σ} (nothing : (w.poll scan s).2.2 = none)
    (done : (w.poll scan s).1.done = true) : Drains w scan s [] (w.poll scan s).2.1
  | more {scan : Scan} {s s' : σ} {item : Except Error Entry} {items : List (Except Error Entry)}
    (yields : (w.poll scan s).2.2 = some item)
    (rest : Drains w (w.poll scan s).1 (w.poll scan s).2.1 items s') :
    Drains w scan s (item :: items) s'

theorem drains_of_done (h : scan.done = true) : w.Drains scan s [] s := by
  have hpoll : w.poll scan s = (scan, s, none) := poll_of_done h
  have hended : w.Drains scan s [] (w.poll scan s).2.1 :=
    .ended (by rw [hpoll]) (by rw [hpoll]; exact h)
  rwa [hpoll] at hended

theorem drains_of_error (h : scan.done = false) (hmove : w.scanMove scan s = (s', .error e)) :
    w.Drains scan s [.error e] s' := by
  have hpoll := poll_of_error h hmove
  refine .more (by rw [hpoll]) ?_
  rw [hpoll]
  exact drains_of_done rfl

theorem drains_of_none (h : scan.done = false) (hmove : w.scanMove scan s = (s', .ok ()))
    (hentry : w.entry? s' = none) : w.Drains scan s [] s' := by
  have hpoll := poll_of_none h hmove hentry
  have hended : w.Drains scan s [] (w.poll scan s).2.1 := .ended (by rw [hpoll]) (by rw [hpoll])
  rwa [hpoll] at hended

theorem drains_of_some {s'' : σ} (h : scan.done = false)
    (hmove : w.scanMove scan s = (s', .ok ())) (hentry : w.entry? s' = some entry)
    (hrest : w.Drains ⟨true, false⟩ s' items s'') :
    w.Drains scan s (.ok entry :: items) s'' := by
  have hpoll := poll_of_some h hmove hentry
  refine .more (by rw [hpoll]) ?_
  rw [hpoll]
  exact hrest

/-- A scan that comes to its end gives its items one by one and then nothing for ever. -/
theorem polls_of_drains (h : w.Drains scan s items s') (n : Nat) :
    (w.polls n scan s).2 = turnsOf items n ∧
      (items.length < n → (w.polls n scan s).1 = s') := by
  induction h generalizing n with
  | ended hnothing hdone =>
    cases n with
    | zero => exact ⟨rfl, fun hlt => absurd hlt (Nat.not_lt_zero _)⟩
    | succ n =>
      rw [polls_succ, polls_of_done hdone, turnsOf_succ, hnothing]
      exact ⟨rfl, fun _ => rfl⟩
  | more hyields hrest ih =>
    cases n with
    | zero => exact ⟨rfl, fun hlt => absurd hlt (Nat.not_lt_zero _)⟩
    | succ n =>
      obtain ⟨hitems, hend⟩ := ih n
      rw [polls_succ, turnsOf_succ, hyields, hitems]
      exact ⟨rfl, fun hlt => hend (Nat.lt_of_succ_lt_succ hlt)⟩

/-- Turns that end with an entry leave the thing on it. -/
theorem entry?_of_polls {n : Nat}
    (h : (w.polls (n + 1) scan s).2.getLast? = some (some (.ok entry))) :
    w.entry? (w.polls (n + 1) scan s).1 = some entry := by
  induction n generalizing scan s with
  | zero => exact entry?_of_poll (Option.some.inj h)
  | succ n ih =>
    rw [polls_succ] at h ⊢
    refine ih ?_
    rw [polls_succ] at h ⊢
    rwa [List.getLast?_cons_cons] at h

/-- What a scan from a state gives: the items, one a turn, and then nothing for ever.  Given up
after an entry, it leaves the thing there, and the next scan begins with that entry.  If it gives
no error, it leaves the thing off the entries in the end. -/
structure Scans (w : Walker σ) (s : σ) (items : List (Except Error Entry)) (Off : σ → Prop) :
    Prop where
  yields : ∀ n, (w.polls n .fresh s).2 = turnsOf items n
  rests : ∀ n entry, (w.polls (n + 1) .fresh s).2.getLast? = some (some (.ok entry)) →
    w.entry? (w.polls (n + 1) .fresh s).1 = some entry ∧
      w.poll .fresh (w.polls (n + 1) .fresh s).1 =
        (⟨true, false⟩, (w.polls (n + 1) .fresh s).1, some (.ok entry))
  ends : (∀ e, .error e ∉ items) → ∀ n, items.length < n → Off (w.polls n .fresh s).1

/-- A thing on an entry has been positioned, and not failed. -/
def Settled (w : Walker σ) : Prop :=
  ∀ s entry, w.entry? s = some entry → w.isUnpositioned s = false ∧ w.status s = .ok ()

theorem poll_fresh_of_settled (hsettled : w.Settled) (h : w.entry? s = some entry) :
    w.poll .fresh s = (⟨true, false⟩, s, some (.ok entry)) := by
  obtain ⟨hpositioned, hstatus⟩ := hsettled s entry h
  refine poll_of_some rfl ?_ h
  show (if false = true then _ else if w.isUnpositioned s = true then _ else _) = _
  rw [hpositioned, hstatus]
  rfl

theorem scans_of_drains {Off : σ → Prop} (hsettled : w.Settled)
    (h : w.Drains .fresh s items s') (hoff : (∀ e, .error e ∉ items) → Off s') :
    w.Scans s items Off where
  yields n := (polls_of_drains h n).1
  rests n entry hlast := by
    have hentry := entry?_of_polls hlast
    exact ⟨hentry, poll_fresh_of_settled hsettled hentry⟩
  ends hcalm n hn := by
    rw [(polls_of_drains h n).2 hn]
    exact hoff hcalm

/-- The items of a scan that is bounded are all of them if the bound is high enough. -/
theorem items_of_scans {Off : σ → Prop} (h : w.Scans s items Off) {size : Nat}
    (hsize : items.length ≤ size + 2) : (w.items size s).2 = items := by
  show (w.polls (size + 2) .fresh s).2.filterMap id = items
  rw [h.yields, filterMap_turnsOf hsize]

/-! ## Things that are scanned alike -/

/-- A thing moves and shows as another one does until a move fails; `R` is how they are related
before that, and `Q` in any case. -/
structure Tracks (w : Walker σ) (u : Walker τ) (R Q : σ → τ → Prop) : Prop where
  outcome : ∀ {s t} (m : Move), R s t → (w.move m s).2 = (u.move m t).2
  moved : ∀ {s t} (m : Move), R s t → Q (w.move m s).1 (u.move m t).1
  kept : ∀ {s t} (m : Move), R s t → (u.move m t).2 = .ok () → R (w.move m s).1 (u.move m t).1
  entry? : ∀ {s t}, R s t → w.entry? s = u.entry? t
  status : ∀ {s t}, R s t → w.status s = u.status t
  isUnpositioned : ∀ {s t}, R s t → w.isUnpositioned s = u.isUnpositioned t
  weaken : ∀ {s t}, R s t → Q s t

namespace Tracks

variable {R Q : σ → τ → Prop} (h : w.Tracks u R Q)

include h

theorem scanMove (scan : Scan) (hst : R s t) :
    (w.scanMove scan s).2 = (u.scanMove scan t).2 ∧
      Q (w.scanMove scan s).1 (u.scanMove scan t).1 ∧
      ((u.scanMove scan t).2 = .ok () → R (w.scanMove scan s).1 (u.scanMove scan t).1) := by
  unfold Walker.scanMove
  rw [h.isUnpositioned hst]
  split
  · exact ⟨h.outcome .next hst, h.moved .next hst, h.kept .next hst⟩
  · split
    · exact ⟨h.outcome .first hst, h.moved .first hst, h.kept .first hst⟩
    · exact ⟨h.status hst, h.weaken hst, fun _ => hst⟩

theorem poll (scan : Scan) (hst : R s t) :
    (w.poll scan s).1 = (u.poll scan t).1 ∧ (w.poll scan s).2.2 = (u.poll scan t).2.2 ∧
      Q (w.poll scan s).2.1 (u.poll scan t).2.1 ∧
      ((u.poll scan t).1.done = false → R (w.poll scan s).2.1 (u.poll scan t).2.1) := by
  cases hdone : scan.done with
  | true =>
    rw [poll_of_done hdone, poll_of_done hdone]
    exact ⟨rfl, rfl, h.weaken hst, fun _ => hst⟩
  | false =>
    obtain ⟨houtcome, hmoved, hkept⟩ := h.scanMove scan hst
    cases hw : w.scanMove scan s with
    | mk s' outcome =>
      cases hu : u.scanMove scan t with
      | mk t' outcome' =>
        rw [hw, hu] at houtcome hmoved hkept
        obtain rfl : outcome = outcome' := houtcome
        cases outcome with
        | error e =>
          rw [poll_of_error hdone hw, poll_of_error hdone hu]
          exact ⟨rfl, rfl, hmoved, fun hmore => absurd hmore (by simp)⟩
        | ok _ =>
          have hentry := h.entry? (hkept rfl)
          cases hshown : u.entry? t' with
          | none =>
            rw [poll_of_none hdone hw (hentry.trans hshown), poll_of_none hdone hu hshown]
            exact ⟨rfl, rfl, hmoved, fun hmore => absurd hmore (by simp)⟩
          | some entry =>
            rw [poll_of_some hdone hw (hentry.trans hshown), poll_of_some hdone hu hshown]
            exact ⟨rfl, rfl, hmoved, fun _ => hkept rfl⟩

/-- They are scanned alike. -/
theorem drains (hdrains : u.Drains scan t items t') (hst : scan.done = false → R s t)
    (hQ : Q s t) : ∃ s', w.Drains scan s items s' ∧ Q s' t' := by
  induction hdrains generalizing s with
  | @ended scan t hnothing hended =>
    cases hdone : scan.done with
    | true =>
      rw [poll_of_done hdone]
      exact ⟨s, drains_of_done hdone, hQ⟩
    | false =>
      obtain ⟨hscan, hitem, hmoved, _⟩ := h.poll scan (hst hdone)
      exact ⟨_, .ended (hitem.trans hnothing) (by rw [hscan]; exact hended), hmoved⟩
  | @more scan t t' item items hyields _ ih =>
    cases hdone : scan.done with
    | true =>
      rw [poll_of_done hdone] at hyields
      cases hyields
    | false =>
      obtain ⟨hscan, hitem, hmoved, hkept⟩ := h.poll scan (hst hdone)
      obtain ⟨s', hrest, hQ'⟩ := ih hkept hmoved
      exact ⟨s', .more (hitem.trans hyields) (by rw [hscan]; exact hrest), hQ'⟩

end Tracks

end Walker

/-! ## Scans among entries -/

/-- What a scan yields that has to come by some entries yet, each by a move of its own, and finds
the end by one more.  `fails` tells of the moves, from `k` on, which of them fail. -/
def reach (fails : Nat → Option Error) : Nat → List Entry → List (Except Error Entry)
  | k, [] => (fails k).toList.map .error
  | k, entry :: rest =>
    match fails k with
    | some e => [.error e]
    | none => .ok entry :: reach fails (k + 1) rest

/-- What a scan yields that begins on an entry.  It makes no move for that one. -/
def resume (fails : Nat → Option Error) : List Entry → List (Except Error Entry)
  | [] => []
  | entry :: rest => .ok entry :: reach fails 0 rest

section Reach

variable {fails : Nat → Option Error} {k n : Nat} {found : List Entry} {e : Error}

theorem reach_of_failure (h : fails k = some e) (found : List Entry) :
    reach fails k found = [.error e] := by
  cases found <;> simp [reach, h]

/-- With no failure it yields every entry. -/
theorem reach_of_calm (h : ∀ j, k ≤ j → j ≤ k + found.length → fails j = none) :
    reach fails k found = found.map .ok := by
  induction found generalizing k with
  | nil => rw [reach, h k (Nat.le_refl _) (Nat.le_refl _)]; rfl
  | cons entry rest ih =>
    have hrest : reach fails (k + 1) rest = rest.map .ok := by
      refine ih fun j hlow hhigh => h j (by omega) ?_
      rw [List.length_cons]
      omega
    rw [reach, h k (Nat.le_refl _) (Nat.le_add_right _ _), hrest]
    rfl

/-- Otherwise it yields the entries up to the first failure, and that one. -/
theorem reach_of_first (hn : n ≤ found.length) (hfails : fails (k + n) = some e)
    (hfirst : ∀ j, k ≤ j → j < k + n → fails j = none) :
    reach fails k found = (found.take n).map .ok ++ [.error e] := by
  induction n generalizing k found with
  | zero => exact reach_of_failure hfails found
  | succ n ih =>
    cases found with
    | nil => exact absurd hn (Nat.not_succ_le_zero n)
    | cons entry rest =>
      have hrest : reach fails (k + 1) rest = (rest.take n).map .ok ++ [.error e] := by
        refine ih (Nat.le_of_succ_le_succ hn) ?_ fun j hlow hhigh => hfirst j (by omega) (by omega)
        rw [← hfails]
        congr 1
        omega
      rw [reach, hfirst k (Nat.le_refl _) (by omega), hrest]
      rfl

theorem length_reach_le (fails : Nat → Option Error) (k : Nat) (found : List Entry) :
    (reach fails k found).length ≤ found.length + 1 := by
  induction found generalizing k with
  | nil => cases hfails : fails k <;> simp [reach, hfails]
  | cons entry rest ih =>
    have hrest := ih (k + 1)
    cases hfails : fails k <;> simp [reach, hfails]
    exact hrest

theorem length_resume_le (fails : Nat → Option Error) (found : List Entry) :
    (resume fails found).length ≤ found.length + 1 := by
  cases found with
  | nil => exact Nat.zero_le _
  | cons entry rest => exact Nat.succ_le_succ (length_reach_le fails 0 rest)

end Reach

namespace Standing

variable {entries : List Entry} {standing : Standing} {fails : Nat → Option Error} {k n : Nat}
  {scan : Scan}

/-- What a scan yields from a standing, if `fails` tells which of its moves fail. -/
def transcript (entries : List Entry) (fails : Nat → Option Error) :
    Standing → List (Except Error Entry)
  | .sound .unpositioned => reach fails 0 entries
  | .sound (.on i) => resume fails (entries.drop i)
  | .sound .off => []
  | .degraded e => [.error e]

/-- The entries from a standing on. -/
def rest (entries : List Entry) : Standing → List Entry
  | .sound .unpositioned => entries
  | .sound (.on i) => entries.drop i
  | _ => []

/-- The number of entries that a scan yields before its first move. -/
def shown : Standing → Nat
  | .sound (.on _) => 1
  | _ => 0

/-- If no move fails, a scan yields the entries from the standing on. -/
theorem transcript_of_calm (entries : List Entry) (position : Position)
    (h : ∀ k, fails k = none) : (Standing.sound position).transcript entries fails =
      ((Standing.sound position).rest entries).map .ok := by
  have hreach : ∀ k found, reach fails k found = found.map .ok :=
    fun k found => reach_of_calm fun j _ _ => h j
  cases position with
  | unpositioned => exact hreach 0 entries
  | off => rfl
  | on i =>
    show resume fails (entries.drop i) = (entries.drop i).map .ok
    cases entries.drop i with
    | nil => rfl
    | cons entry rest => exact congrArg (_ :: ·) (hreach 0 rest)

/-- If a move fails, a scan yields the entries up to it, and the failure. -/
theorem transcript_of_first {position : Position} {e : Error} (hne : position ≠ .off)
    (hk : (Standing.sound position).shown + k ≤ ((Standing.sound position).rest entries).length)
    (hfails : fails k = some e) (hfirst : ∀ j, j < k → fails j = none) :
    (Standing.sound position).transcript entries fails =
      (((Standing.sound position).rest entries).take ((Standing.sound position).shown + k)).map
        .ok ++ [.error e] := by
  have hreach : ∀ found : List Entry, k ≤ found.length →
      reach fails 0 found = (found.take k).map .ok ++ [.error e] := by
    intro found hfound
    refine reach_of_first hfound ?_ fun j _ hj => hfirst j ?_
    · rwa [Nat.zero_add]
    · rwa [Nat.zero_add] at hj
  cases position with
  | off => exact absurd rfl hne
  | unpositioned =>
    have hall : (0 : Nat) + k ≤ entries.length := hk
    show reach fails 0 entries = (entries.take (0 + k)).map .ok ++ [.error e]
    rw [Nat.zero_add] at hall ⊢
    exact hreach entries hall
  | on i =>
    have hdrop : 1 + k ≤ (entries.drop i).length := hk
    show resume fails (entries.drop i) = ((entries.drop i).take (1 + k)).map .ok ++ [.error e]
    cases hfound : entries.drop i with
    | nil =>
      rw [hfound] at hdrop
      exact absurd hdrop (by simp)
    | cons entry rest =>
      rw [hfound, List.length_cons] at hdrop
      rw [resume, hreach rest (by omega), Nat.add_comm 1 k]
      rfl

theorem length_transcript_le (entries : List Entry) (fails : Nat → Option Error)
    (standing : Standing) : (standing.transcript entries fails).length ≤ entries.length + 1 := by
  cases standing with
  | degraded e => exact Nat.le_add_left 1 _
  | sound position =>
    cases position with
    | unpositioned => exact length_reach_le fails 0 entries
    | off => exact Nat.zero_le _
    | on i =>
      have hdrop : (entries.drop i).length ≤ entries.length := by
        rw [List.length_drop]
        exact Nat.sub_le _ _
      exact Nat.le_trans (length_resume_le fails _) (Nat.succ_le_succ hdrop)

/-- A standing as the thing that is scanned, with the number of moves made so far. -/
def walker (entries : List Entry) (fails : Nat → Option Error) : Walker (Standing × Nat) where
  move mv st := (((st.1.move entries (fails st.2) mv).1, st.2 + 1),
    (st.1.move entries (fails st.2) mv).2)
  entry? st := st.1.shows entries
  status st := st.1.status
  isUnpositioned st := st.1 = .sound .unpositioned

section Ahead

variable {mv : Move} {found : List Entry} {e : Error}

/-- The next move of the scan is `mv`, which asks something. -/
structure Heads (entries : List Entry) (fails : Nat → Option Error) (scan : Scan)
    (standing : Standing) (k : Nat) (mv : Move) : Prop where
  goes : scan.done = false
  move : (walker entries fails).scanMove scan (standing, k) =
    (walker entries fails).move mv (standing, k)
  asks : standing.asks mv = true

theorem heads_first (entries : List Entry) (fails : Nat → Option Error) :
    Heads entries fails .fresh (.sound .unpositioned) 0 .first := ⟨rfl, rfl, rfl⟩

theorem heads_next (entries : List Entry) (fails : Nat → Option Error) (i k : Nat) :
    Heads entries fails ⟨true, false⟩ (.sound (.on i)) k .next := ⟨rfl, rfl, rfl⟩

/-- A scan whose next move fails yields the failure. -/
theorem Heads.drains_of_failure (h : Heads entries fails scan standing k mv)
    (hfails : fails k = some e) (found : List Entry) :
    ∃ st, (walker entries fails).Drains scan (standing, k) (reach fails k found) st ∧
      ((∀ e, .error e ∉ reach fails k found) → st.1 = .sound .off) := by
  have hmoved : (walker entries fails).scanMove scan (standing, k) =
      ((.degraded e, k + 1), .error e) := by
    rw [h.move]
    simp only [walker, hfails, move_of_obstacle h.asks]
  rw [reach_of_failure hfails]
  exact ⟨_, Walker.drains_of_error h.goes hmoved,
    fun hcalm => absurd (List.mem_singleton.mpr rfl) (hcalm e)⟩

theorem Heads.scanMove_of_free (h : Heads entries fails scan standing k mv)
    (hfails : fails k = none) : (walker entries fails).scanMove scan (standing, k) =
      ((.sound (standing.position.move entries mv), k + 1), .ok ()) := by
  rw [h.move]
  simp only [walker, hfails, move_of_free h.asks]

/-- A scan whose next move leads to the entry at `n` yields that one and the later ones, as long
as no move fails. -/
theorem Heads.drains (h : Heads entries fails scan standing k mv)
    (hleads : standing.position.move entries mv = Position.ahead entries n)
    (hfound : entries.drop n = found) :
    ∃ st, (walker entries fails).Drains scan (standing, k) (reach fails k found) st ∧
      ((∀ e, .error e ∉ reach fails k found) → st.1 = .sound .off) := by
  induction found generalizing standing scan mv k n with
  | nil =>
    cases hfails : fails k with
    | some e => exact h.drains_of_failure hfails []
    | none =>
      have hend : entries.length ≤ n := List.drop_eq_nil_iff.mp hfound
      have hmoved := h.scanMove_of_free hfails
      rw [hleads, Position.ahead, if_neg (Nat.not_lt.mpr hend)] at hmoved
      rw [reach, hfails]
      exact ⟨_, Walker.drains_of_none h.goes hmoved rfl, fun _ => rfl⟩
  | cons entry rest ih =>
    cases hfails : fails k with
    | some e => exact h.drains_of_failure hfails (entry :: rest)
    | none =>
      have hn : n < entries.length := by
        refine Nat.lt_of_not_le fun hend => ?_
        rw [List.drop_eq_nil_of_le hend] at hfound
        cases hfound
      rw [List.drop_eq_getElem_cons hn] at hfound
      obtain ⟨hentry, hrest⟩ := List.cons.inj hfound
      have hmoved := h.scanMove_of_free hfails
      rw [hleads, Position.ahead, if_pos hn] at hmoved
      have hshows : Walker.entry? (walker entries fails) (.sound (.on n), k + 1) = some entry :=
        (List.getElem?_eq_getElem hn).trans (congrArg some hentry)
      obtain ⟨st, hdrains, hoff⟩ := ih (heads_next entries fails n (k + 1)) rfl hrest
      rw [reach, hfails]
      exact ⟨st, Walker.drains_of_some h.goes hmoved hshows hdrains,
        fun hcalm => hoff fun e hmem => hcalm e (List.mem_cons_of_mem _ hmem)⟩

end Ahead

/-- A scan from a standing yields its transcript, and ends off the entries if no move fails. -/
theorem drains_transcript (fails : Nat → Option Error) (h : standing.Fits entries) :
    ∃ st, (walker entries fails).Drains .fresh (standing, 0) (standing.transcript entries fails)
        st ∧
      ((∀ e, .error e ∉ standing.transcript entries fails) → st.1 = .sound .off) := by
  cases standing with
  | degraded e =>
    have hmoved : (walker entries fails).scanMove .fresh (.degraded e, 0) =
        ((.degraded e, 0), .error e) := rfl
    exact ⟨_, Walker.drains_of_error rfl hmoved,
      fun hcalm => absurd (List.mem_singleton.mpr rfl) (hcalm e)⟩
  | sound position =>
    cases position with
    | unpositioned =>
      refine (heads_first entries fails).drains ?_ List.drop_zero
      show (if entries = [] then Position.off else .on 0) = Position.ahead entries 0
      cases entries <;> rfl
    | on i =>
      have hi := h i rfl
      have hmoved : (walker entries fails).scanMove .fresh (.sound (.on i), 0) =
          ((.sound (.on i), 0), .ok ()) := rfl
      have hshows : Walker.entry? (walker entries fails) (.sound (.on i), 0) = some entries[i] :=
        List.getElem?_eq_getElem hi
      obtain ⟨st, hdrains, hoff⟩ := (heads_next entries fails i 0).drains rfl rfl
      rw [transcript, List.drop_eq_getElem_cons hi, resume]
      exact ⟨st, Walker.drains_of_some rfl hmoved hshows hdrains,
        fun hcalm => hoff fun e hmem => hcalm e (List.mem_cons_of_mem _ hmem)⟩
    | off =>
      have hmoved : (walker entries fails).scanMove .fresh (.sound .off, 0) =
          ((.sound .off, 0), .ok ()) := rfl
      exact ⟨_, Walker.drains_of_none rfl hmoved rfl, fun _ => rfl⟩

end Standing

end OrderedStore
