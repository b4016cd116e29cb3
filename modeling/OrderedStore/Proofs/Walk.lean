import OrderedStore.Proofs.Cursor
import OrderedStore.Walk

/-!
# What a walk selects

A walk that selects a range moves a thing it knows nothing of.  Two things that move alike
and show the same select the same (`Walker.Simulates.selects`), so it is enough to know what a
position among the entries of a keyspace selects: the entries whose keys are in the range, in
the direction of the walk, up to the limit (`Position.selects_walker`).

`Walker.select` counts on a number of entries that nothing can exceed.  A walk with no such
bound goes on until the limit is reached, no entry is shown or a move fails; it ends exactly if
`Walker.Selects` has a derivation, with one outcome (`Selects.unique`).  Positions come to an
end, and where a walk does, the bounded one does the same
(`select_of_selects`).
-/

set_option autoImplicit false

namespace OrderedStore

/-! ## Ranges -/

namespace Range

/-- Is a key in the range? -/
def holds (range : Range) (key : Bytes) : Bool :=
  match range.start with
  | none => true
  | some start => if range.backward then ¬ start < key else ¬ key < start

/-- The entries of a range. -/
def pick (range : Range) (m : Keyspace) : List Entry :=
  let found := m.entries.filter fun e => range.holds e.1
  let ordered := if range.backward then found.reverse else found
  match range.limit with
  | some limit => ordered.take limit
  | none => ordered

/-- The move with which a walk over the range begins, wherever the thing stands. -/
def jump (range : Range) : Move :=
  match range.start, range.backward with
  | some key, _ => .seek key
  | none, false => .first
  | none, true => .last

/-- The move by which it goes on. -/
def step (range : Range) : Move := if range.backward then .prev else .next

/-- The number of entries that a walk over the range takes at most. -/
def room (range : Range) (size : Nat) : Nat :=
  match range.limit with
  | some limit => min limit size
  | none => size

end Range

/-- As many entries as a limit admits. -/
def atMost : Option Nat → List Entry → List Entry
  | some limit, found => found.take limit
  | none, found => found

theorem atMost_nil (limit : Option Nat) : atMost limit [] = [] := by
  cases limit <;> simp [atMost]

theorem atMost_cons {limit : Option Nat} (h : limit ≠ some 0) (e : Entry) (found : List Entry) :
    atMost limit (e :: found) = e :: atMost (limit.map Nat.pred) found := by
  cases limit with
  | none => rfl
  | some limit =>
    cases limit with
    | zero => exact absurd rfl h
    | succ limit => rfl

theorem Range.pick_eq (range : Range) (m : Keyspace) :
    range.pick m = atMost range.limit
      (if range.backward then (m.entries.filter fun e => range.holds e.1).reverse
        else m.entries.filter fun e => range.holds e.1) := by
  unfold Range.pick
  cases range.limit <;> rfl

theorem Range.length_pick_le (range : Range) (m : Keyspace) :
    (range.pick m).length ≤ m.size := by
  have hfound : (m.entries.filter fun e => range.holds e.1).length ≤ m.size :=
    List.length_filter_le _ _
  have hordered : (if range.backward then (m.entries.filter fun e => range.holds e.1).reverse
      else m.entries.filter fun e => range.holds e.1).length ≤ m.size := by
    split
    · rwa [List.length_reverse]
    · exact hfound
  rw [Range.pick_eq]
  cases range.limit with
  | none => exact hordered
  | some limit => exact Nat.le_trans (List.length_take_le' _ _) hordered

/-- Does a walk over the range come by the one key before the other? -/
def Range.precedes (range : Range) (key other : Bytes) : Prop :=
  if range.backward then other < key else key < other

/-- What is picked is in the order of the walk, so nothing is picked twice. -/
theorem Range.pairwise_pick (range : Range) (m : Keyspace) :
    (range.pick m).Pairwise fun a b => range.precedes a.1 b.1 := by
  have hfound : (m.entries.filter fun e => range.holds e.1).Pairwise fun a b => a.1 < b.1 :=
    m.ascending.filter _
  have hordered : (if range.backward then (m.entries.filter fun e => range.holds e.1).reverse
      else m.entries.filter fun e => range.holds e.1).Pairwise
        fun a b => range.precedes a.1 b.1 := by
    unfold Range.precedes
    cases range.backward with
    | true => exact List.pairwise_reverse.mpr hfound
    | false => exact hfound
  rw [Range.pick_eq]
  cases range.limit with
  | none => exact hordered
  | some limit => exact hordered.sublist (List.take_sublist limit _)

/-- If a test holds up to some place and not from there on, it filters what is before. -/
theorem filter_eq_take {l : List Entry} {p : Entry → Bool} {n : Nat}
    (hbefore : ∀ i (hi : i < l.length), i < n → p l[i] = true)
    (hafter : ∀ i (hi : i < l.length), n ≤ i → p l[i] = false) : l.filter p = l.take n := by
  have htake : (l.take n).filter p = l.take n := by
    refine List.filter_eq_self.mpr fun e hmem => ?_
    obtain ⟨i, hi, rfl⟩ := List.mem_take_iff_getElem.mp hmem
    exact hbefore i (by omega) (by omega)
  have hdrop : (l.drop n).filter p = [] := by
    refine List.filter_eq_nil_iff.mpr fun e hmem => ?_
    obtain ⟨i, hi, rfl⟩ := List.mem_drop_iff_getElem.mp hmem
    rw [hafter (n + i) (by omega) (by omega)]
    exact Bool.false_ne_true
  calc l.filter p = (l.take n ++ l.drop n).filter p := by rw [List.take_append_drop]
    _ = l.take n := by rw [List.filter_append, htake, hdrop, List.append_nil]

/-- If it holds from there on and not before, it filters the rest. -/
theorem filter_eq_drop {l : List Entry} {p : Entry → Bool} {n : Nat}
    (hbefore : ∀ i (hi : i < l.length), i < n → p l[i] = false)
    (hafter : ∀ i (hi : i < l.length), n ≤ i → p l[i] = true) : l.filter p = l.drop n := by
  have htake : (l.take n).filter p = [] := by
    refine List.filter_eq_nil_iff.mpr fun e hmem => ?_
    obtain ⟨i, hi, rfl⟩ := List.mem_take_iff_getElem.mp hmem
    rw [hbefore i (by omega) (by omega)]
    exact Bool.false_ne_true
  have hdrop : (l.drop n).filter p = l.drop n := by
    refine List.filter_eq_self.mpr fun e hmem => ?_
    obtain ⟨i, hi, rfl⟩ := List.mem_drop_iff_getElem.mp hmem
    exact hafter (n + i) (by omega) (by omega)
  calc l.filter p = (l.take n ++ l.drop n).filter p := by rw [List.take_append_drop]
    _ = l.drop n := by rw [List.filter_append, htake, hdrop, List.nil_append]

/-! ## Walks without a bound -/

namespace Walker

variable {σ τ α : Type} {w : Walker σ} {u : Walker τ} {R : σ → τ → Prop} {s s' s'' : σ} {t t' : τ}
  {range : Range} {step : Move} {limit : Option Nat} {outcome : Except Error (List Entry)}
  {entries : List Entry}

/-- How a walk goes on from its first move to the first entry of the range. -/
def settle (w : Walker σ) (range : Range) (s : σ) : σ × Except Error Unit :=
  match range.start, range.backward with
  | some key, true =>
    match w.entry? s with
    | none => w.move .last s
    | some entry => if entry.1 = key then (s, .ok ()) else w.move .prev s
  | _, _ => (s, .ok ())

theorem thenMove_ok (m : Move) (s : σ) : w.thenMove m s (fun s => (s, .ok ())) = w.move m s := by
  unfold thenMove
  rcases w.move m s with ⟨s', _ | _⟩ <;> rfl

theorem approach_eq (w : Walker σ) (range : Range) (s : σ) :
    w.approach range s = w.thenMove range.jump s (w.settle range) := by
  obtain ⟨start, limit, backward⟩ := range
  cases start with
  | none => cases backward <;> exact (thenMove_ok _ s).symm
  | some key =>
    cases backward with
    | false => exact (thenMove_ok _ s).symm
    | true => rfl

theorem approach_of_error {e : Error} (h : w.move range.jump s = (s', .error e)) :
    w.approach range s = (s', .error e) := by
  rw [approach_eq, thenMove, h]

theorem select_eq (w : Walker σ) (range : Range) (size : Nat) (s : σ) :
    w.select range size s = match w.approach range s with
      | (s, .error e) => (s, .error e)
      | (s, .ok ()) =>
        match w.gather range.step (range.room size) s with
        | (s, .error e) => (s, .error e)
        | (s, .ok entries) => (s, (w.status s).map fun _ => entries) := rfl

/-- A walk backward from a key that comes after all keys begins at the last entry. -/
theorem approach_of_none {key : Bytes} {limit : Option Nat}
    (hmove : w.move (.seek key) s = (s', .ok ())) (hentry : w.entry? s' = none) :
    w.approach ⟨some key, limit, true⟩ s = w.move .last s' := by
  simp only [approach, thenMove, hmove, hentry]

/-- Otherwise it begins at the key, or before the first entry after it. -/
theorem approach_of_some {key : Bytes} {limit : Option Nat} {entry : Entry}
    (hmove : w.move (.seek key) s = (s', .ok ())) (hentry : w.entry? s' = some entry) :
    w.approach ⟨some key, limit, true⟩ s =
      if entry.1 = key then (s', .ok ()) else w.move .prev s' := by
  simp only [approach, thenMove, hmove, hentry]

/-- From the first state, gathering ends in the second one with the outcome.  Nothing bounds
the number of entries but the limit. -/
inductive Gathers (w : Walker σ) (step : Move) :
    Option Nat → σ → σ → Except Error (List Entry) → Prop
  | full {s : σ} : Gathers w step (some 0) s s (.ok [])
  | ended {limit : Option Nat} {s : σ} (hentry : w.entry? s = none) :
      Gathers w step limit s s (.ok [])
  | failed {limit : Option Nat} {s s' : σ} {entry : Entry} {e : Error} (hlimit : limit ≠ some 0)
      (hentry : w.entry? s = some entry) (hmove : w.move step s = (s', .error e)) :
      Gathers w step limit s s' (.error e)
  | more {limit : Option Nat} {s s' s'' : σ} {entry : Entry} {rest : Except Error (List Entry)}
      (hlimit : limit ≠ some 0) (hentry : w.entry? s = some entry)
      (hmove : w.move step s = (s', .ok ()))
      (hrest : Gathers w step (limit.map Nat.pred) s' s'' rest) :
      Gathers w step limit s s'' (rest.map (entry :: ·))

/-- A walk over the range that begins in the first state ends in the second one with the
outcome. -/
inductive Selects (w : Walker σ) (range : Range) (s : σ) : σ → Except Error (List Entry) → Prop
  | astray {s' : σ} {e : Error} (happroach : w.approach range s = (s', .error e)) :
      Selects w range s s' (.error e)
  | failed {s' s'' : σ} {e : Error} (happroach : w.approach range s = (s', .ok ()))
      (hgathers : w.Gathers range.step range.limit s' s'' (.error e)) :
      Selects w range s s'' (.error e)
  | done {s' s'' : σ} {entries : List Entry} (happroach : w.approach range s = (s', .ok ()))
      (hgathers : w.Gathers range.step range.limit s' s'' (.ok entries)) :
      Selects w range s s'' ((w.status s'').map fun _ => entries)

/-- Gathering ends in one way at most. -/
theorem Gathers.unique (h : w.Gathers step limit s s' outcome)
    {outcome' : Except Error (List Entry)} (h' : w.Gathers step limit s s'' outcome') :
    s' = s'' ∧ outcome = outcome' := by
  induction h generalizing s'' outcome' with
  | full =>
    cases h' with
    | full => exact ⟨rfl, rfl⟩
    | ended _ => exact ⟨rfl, rfl⟩
    | failed hlimit _ _ => exact absurd rfl hlimit
    | more hlimit _ _ _ => exact absurd rfl hlimit
  | ended hentry =>
    cases h' with
    | full => exact ⟨rfl, rfl⟩
    | ended _ => exact ⟨rfl, rfl⟩
    | failed _ hentry' _ => exact absurd (hentry.symm.trans hentry') (by simp)
    | more _ hentry' _ _ => exact absurd (hentry.symm.trans hentry') (by simp)
  | failed hlimit hentry hmove =>
    cases h' with
    | full => exact absurd rfl hlimit
    | ended hentry' => exact absurd (hentry.symm.trans hentry') (by simp)
    | failed _ _ hmove' =>
      obtain ⟨rfl, he⟩ := Prod.ext_iff.mp (hmove.symm.trans hmove')
      exact ⟨rfl, congrArg _ (Except.error.inj he)⟩
    | more _ _ hmove' _ => exact absurd (hmove.symm.trans hmove') (by simp)
  | more hlimit hentry hmove _ ih =>
    cases h' with
    | full => exact absurd rfl hlimit
    | ended hentry' => exact absurd (hentry.symm.trans hentry') (by simp)
    | failed _ _ hmove' => exact absurd (hmove.symm.trans hmove') (by simp)
    | more _ hentry' hmove' hrest' =>
      obtain rfl := Option.some.inj (hentry.symm.trans hentry')
      obtain ⟨rfl, _⟩ := Prod.ext_iff.mp (hmove.symm.trans hmove')
      obtain ⟨rfl, rfl⟩ := ih hrest'
      exact ⟨rfl, rfl⟩

/-- So does a walk over a range. -/
theorem Selects.unique (h : w.Selects range s s' outcome) {outcome' : Except Error (List Entry)}
    (h' : w.Selects range s s'' outcome') : s' = s'' ∧ outcome = outcome' := by
  cases h with
  | astray happroach =>
    cases h' with
    | astray happroach' =>
      obtain ⟨rfl, he⟩ := Prod.ext_iff.mp (happroach.symm.trans happroach')
      exact ⟨rfl, congrArg _ (Except.error.inj he)⟩
    | failed happroach' _ => exact absurd (happroach.symm.trans happroach') (by simp)
    | done happroach' _ => exact absurd (happroach.symm.trans happroach') (by simp)
  | failed happroach hgathers =>
    cases h' with
    | astray happroach' => exact absurd (happroach.symm.trans happroach') (by simp)
    | failed happroach' hgathers' =>
      obtain ⟨rfl, _⟩ := Prod.ext_iff.mp (happroach.symm.trans happroach')
      exact hgathers.unique hgathers'
    | done happroach' hgathers' =>
      obtain ⟨rfl, _⟩ := Prod.ext_iff.mp (happroach.symm.trans happroach')
      exact absurd (hgathers.unique hgathers').2 (by simp)
  | done happroach hgathers =>
    cases h' with
    | astray happroach' => exact absurd (happroach.symm.trans happroach') (by simp)
    | failed happroach' hgathers' =>
      obtain ⟨rfl, _⟩ := Prod.ext_iff.mp (happroach.symm.trans happroach')
      exact absurd (hgathers.unique hgathers').2 (by simp)
    | done happroach' hgathers' =>
      obtain ⟨rfl, _⟩ := Prod.ext_iff.mp (happroach.symm.trans happroach')
      obtain ⟨rfl, he⟩ := hgathers.unique hgathers'
      exact ⟨rfl, by rw [Except.ok.inj he]⟩

/-- If gathering ends well, it takes no more turns than there are entries gathered: a bound
that leaves room for them is never felt. -/
theorem gather_of_gathers (h : w.Gathers step limit s s' outcome) (hok : outcome = .ok entries)
    {room : Nat} (hroom : entries.length ≤ room) (hlimit : ∀ l, limit = some l → room ≤ l) :
    w.gather step room s = (s', .ok entries) := by
  induction h generalizing entries room with
  | full =>
    obtain rfl := Except.ok.inj hok
    obtain rfl := Nat.le_zero.mp (hlimit 0 rfl)
    rfl
  | ended hentry =>
    obtain rfl := Except.ok.inj hok
    cases room with
    | zero => rfl
    | succ room =>
      rw [gather, hentry]
  | failed _ _ _ => exact absurd hok (by simp)
  | @more _ _ _ _ entry rest _ hentry hmove _ ih =>
    cases rest with
    | error e => exact absurd hok (by simp [Except.map])
    | ok gathered =>
      obtain rfl : entry :: gathered = entries := Except.ok.inj hok
      cases room with
      | zero => exact absurd hroom (by simp)
      | succ room =>
        have hrest := ih rfl (Nat.le_of_succ_le_succ hroom) (by
          intro l hl
          obtain ⟨l', hl', rfl⟩ := Option.map_eq_some_iff.mp hl
          have hle := hlimit l' hl'
          exact Nat.le_pred_of_lt hle)
        rw [gather, hentry]
        simp only [thenMove, hmove, hrest]
        rfl

theorem length_le_of_gathers (h : w.Gathers step limit s s' outcome) (hok : outcome = .ok entries)
    {l : Nat} (hlimit : limit = some l) : entries.length ≤ l := by
  induction h generalizing entries l with
  | full =>
    obtain rfl := Except.ok.inj hok
    exact Nat.zero_le _
  | ended _ =>
    obtain rfl := Except.ok.inj hok
    exact Nat.zero_le _
  | failed _ _ _ => exact absurd hok (by simp)
  | @more _ _ _ _ entry rest hne _ _ _ ih =>
    cases rest with
    | error e => exact absurd hok (by simp [Except.map])
    | ok gathered =>
      obtain rfl : entry :: gathered = entries := Except.ok.inj hok
      cases l with
      | zero => exact absurd hlimit hne
      | succ l => exact Nat.succ_le_succ (ih rfl (by rw [hlimit]; rfl))

/-- What a walk without a bound selects, the walk over at most `size` entries selects as well
if there are no more than that. -/
theorem select_of_selects (h : w.Selects range s s' (.ok entries)) {size : Nat}
    (hsize : entries.length ≤ size) : w.select range size s = (s', .ok entries) := by
  generalize hok : (.ok entries : Except Error (List Entry)) = outcome at h
  cases h with
  | astray _ => exact absurd hok (by simp)
  | failed _ _ => exact absurd hok (by simp)
  | @done _ _ gathered happroach hgathers =>
    obtain ⟨_, hstatus, rfl⟩ : ∃ x, w.status s' = .ok x ∧ gathered = entries := by
      cases hstatus : w.status s' with
      | error e =>
        rw [hstatus] at hok
        exact absurd hok (by simp [Except.map])
      | ok x =>
        rw [hstatus] at hok
        exact ⟨x, rfl, (Except.ok.inj hok).symm⟩
    have hroom : gathered.length ≤ range.room size := by
      unfold Range.room
      cases hlimit : range.limit with
      | none => exact hsize
      | some limit => exact Nat.le_min.mpr ⟨length_le_of_gathers hgathers rfl hlimit, hsize⟩
    have hbounded := gather_of_gathers hgathers rfl hroom (by
      intro limit hlimit
      rw [Range.room, hlimit]
      exact Nat.min_le_left _ _)
    rw [select_eq, happroach]
    simp only [hbounded, hstatus]

/-! ## Things that move alike -/

/-- Related states and the same outcome. -/
def Alike (R : σ → τ → Prop) (a : σ × α) (b : τ × α) : Prop := R a.1 b.1 ∧ a.2 = b.2

/-- One thing moves and shows as another one does, as long as their states are related. -/
structure Simulates (w : Walker σ) (u : Walker τ) (R : σ → τ → Prop) : Prop where
  move : ∀ {s : σ} {t : τ} (m : Move), R s t → Alike R (w.move m s) (u.move m t)
  entry? : ∀ {s : σ} {t : τ}, R s t → w.entry? s = u.entry? t
  status : ∀ {s : σ} {t : τ}, R s t → w.status s = u.status t

theorem Alike.eq_of_eq {a : σ × α} {b : τ × α} (h : Alike R a b) {t : τ} {x : α}
    (hb : b = (t, x)) : ∃ s, a = (s, x) ∧ R s t := by
  subst hb
  exact ⟨a.1, Prod.ext rfl h.2, h.1⟩

namespace Simulates

variable (h : w.Simulates u R)

include h

theorem settle (range : Range) (hst : R s t) :
    Alike R (w.settle range s) (u.settle range t) := by
  obtain ⟨start, limit, backward⟩ := range
  cases start with
  | none => exact ⟨hst, rfl⟩
  | some key =>
    cases backward with
    | false => exact ⟨hst, rfl⟩
    | true =>
      unfold Walker.settle
      simp only [h.entry? hst]
      cases u.entry? t with
      | none => exact h.move .last hst
      | some entry =>
        simp only
        split
        · exact ⟨hst, rfl⟩
        · exact h.move .prev hst

/-- A walk begins with a move that asks nothing of where the things stand.  It is enough that
they are related after it. -/
theorem approach (hjump : Alike R (w.move range.jump s) (u.move range.jump t)) :
    Alike R (w.approach range s) (u.approach range t) := by
  obtain ⟨hmoved, houtcome⟩ := hjump
  rw [approach_eq, approach_eq, Walker.thenMove, Walker.thenMove]
  cases hw : w.move range.jump s with
  | mk s' outcome =>
    cases hu : u.move range.jump t with
    | mk t' outcome' =>
      rw [hw, hu] at hmoved houtcome
      obtain rfl : outcome = outcome' := houtcome
      cases outcome with
      | error e => exact ⟨hmoved, rfl⟩
      | ok _ => exact h.settle range hmoved

theorem gathers (hgathers : u.Gathers step limit t t' outcome) (hst : R s t) :
    ∃ s', w.Gathers step limit s s' outcome ∧ R s' t' := by
  induction hgathers generalizing s with
  | full => exact ⟨s, .full, hst⟩
  | ended hentry => exact ⟨s, .ended ((h.entry? hst).trans hentry), hst⟩
  | failed hlimit hentry hmove =>
    obtain ⟨s', hmoved, hst'⟩ := (h.move step hst).eq_of_eq hmove
    exact ⟨s', .failed hlimit ((h.entry? hst).trans hentry) hmoved, hst'⟩
  | more hlimit hentry hmove _ ih =>
    obtain ⟨s', hmoved, hst'⟩ := (h.move step hst).eq_of_eq hmove
    obtain ⟨s'', hrest, hst''⟩ := ih hst'
    exact ⟨s'', .more hlimit ((h.entry? hst).trans hentry) hmoved hrest, hst''⟩

/-- They select the same entries. -/
theorem selects (hselects : u.Selects range t t' outcome)
    (hjump : Alike R (w.move range.jump s) (u.move range.jump t)) :
    ∃ s', w.Selects range s s' outcome ∧ R s' t' := by
  cases hselects with
  | astray happroach =>
    obtain ⟨s', happroached, hst⟩ := (h.approach hjump).eq_of_eq happroach
    exact ⟨s', .astray happroached, hst⟩
  | failed happroach hgathers =>
    obtain ⟨s', happroached, hst⟩ := (h.approach hjump).eq_of_eq happroach
    obtain ⟨s'', hgathered, hst'⟩ := h.gathers hgathers hst
    exact ⟨s'', .failed happroached hgathered, hst'⟩
  | done happroach hgathers =>
    obtain ⟨s', happroached, hst⟩ := (h.approach hjump).eq_of_eq happroach
    obtain ⟨s'', hgathered, hst'⟩ := h.gathers hgathers hst
    exact ⟨s'', h.status hst' ▸ .done happroached hgathered, hst'⟩

end Simulates

end Walker

/-! ## Positions select -/

namespace Position

variable {m : Keyspace} {entries : List Entry} {position : Position} {i n : Nat}

/-- A position among entries as the thing that a walk moves. -/
def walker (entries : List Entry) : Walker Position where
  move mv position := (position.move entries mv, .ok ())
  entry? := shows entries
  status _ := .ok ()
  isUnpositioned := (· = .unpositioned)

/-- The position from where a walk forward comes by all entries but the first ones. -/
def ahead (entries : List Entry) (n : Nat) : Position := if n < entries.length then .on n else .off

/-- The position from where a walk backward comes by the first entries only. -/
def behind (n : Nat) : Position := if n = 0 then .off else .on (n - 1)

theorem gathers_ahead (entries : List Entry) (limit : Option Nat) (n : Nat) :
    ∃ position, (walker entries).Gathers .next limit (ahead entries n) position
      (.ok (atMost limit (entries.drop n))) := by
  -- Each step leaves one entry less ahead.
  induction hleft : entries.length - n generalizing n limit with
  | zero =>
    rw [List.drop_eq_nil_of_le (by omega), atMost_nil, ahead, if_neg (by omega)]
    exact ⟨.off, .ended rfl⟩
  | succ left ih =>
    have hn : n < entries.length := by omega
    have hshows : Walker.entry? (walker entries) (.on n) = some entries[n] :=
      List.getElem?_eq_getElem hn
    have hmoves : (walker entries).move .next (.on n) = (ahead entries (n + 1), .ok ()) := rfl
    rw [ahead, if_pos hn, List.drop_eq_getElem_cons hn]
    by_cases hlimit : limit = some 0
    · rw [hlimit]
      exact ⟨.on n, .full⟩
    · obtain ⟨position, hrest⟩ := ih (limit.map Nat.pred) (n + 1) (by omega)
      rw [atMost_cons hlimit]
      exact ⟨position, .more hlimit hshows hmoves hrest⟩

theorem gathers_behind (entries : List Entry) (limit : Option Nat) (hn : n ≤ entries.length) :
    ∃ position, (walker entries).Gathers .prev limit (behind n) position
      (.ok (atMost limit (entries.take n).reverse)) := by
  induction n generalizing limit with
  | zero =>
    rw [List.take_zero, List.reverse_nil, atMost_nil]
    exact ⟨.off, .ended rfl⟩
  | succ n ih =>
    have hshows : Walker.entry? (walker entries) (.on n) = some entries[n] :=
      List.getElem?_eq_getElem hn
    have hmoves : (walker entries).move .prev (.on n) = (behind n, .ok ()) := rfl
    rw [show behind (n + 1) = .on n from rfl, List.take_succ_eq_append_getElem hn,
      List.reverse_append, List.reverse_singleton, List.singleton_append]
    by_cases hlimit : limit = some 0
    · rw [hlimit]
      exact ⟨.on n, .full⟩
    · obtain ⟨position, hrest⟩ := ih (limit.map Nat.pred) (Nat.le_of_succ_le hn)
      rw [atMost_cons hlimit]
      exact ⟨position, .more hlimit hshows hmoves hrest⟩

/-- The number of the first entry whose key is not before a key. -/
def rank (entries : List Entry) (key : Bytes) : Nat := entries.findIdx fun e => ¬ e.1 < key

theorem lt_of_lt_rank {key : Bytes} (hi : i < entries.length) (h : i < rank entries key) :
    entries[i].1 < key :=
  not_not.mp (of_decide_eq_false (List.not_of_lt_findIdx h))

theorem not_lt_of_rank_le {key : Bytes} (hi : i < m.entries.length)
    (h : rank m.entries key ≤ i) : ¬ m.entries[i].1 < key := by
  have hrank : rank m.entries key < m.entries.length := by omega
  have hfirst : ¬ m.entries[rank m.entries key].1 < key :=
    of_decide_eq_true (List.findIdx_getElem (w := hrank))
  intro hlt
  rcases Nat.lt_or_eq_of_le h with hless | rfl
  · exact hfirst (Bytes.lt_trans (Keyspace.getElem_lt_getElem hrank hi hless) hlt)
  · exact hfirst hlt

theorem move_seek (entries : List Entry) (key : Bytes) (position : Position) :
    position.move entries (.seek key) = ahead entries (rank entries key) := by
  show ofIndex? (entries.findIdx? fun e => ¬ e.1 < key) = _
  cases hfound : entries.findIdx? fun e => ¬ e.1 < key with
  | none =>
    have hrank : rank entries key = entries.length :=
      List.findIdx?_eq_none_iff_findIdx_eq.mp hfound
    rw [hrank, ahead, if_neg (Nat.lt_irrefl _), ofIndex?]
  | some i =>
    obtain ⟨hi, hrank⟩ := List.findIdx?_eq_some_iff_findIdx_eq.mp hfound
    rw [show rank entries key = i from hrank, ahead, if_pos hi, ofIndex?]

/-- A forward range has the entries from some place on, and a walk begins there. -/
theorem approach_forward (m : Keyspace) (start : Option Bytes) (limit : Option Nat)
    (position : Position) :
    ∃ n, (walker m.entries).approach ⟨start, limit, false⟩ position =
        (ahead m.entries n, .ok ()) ∧
      (m.entries.filter fun e => Range.holds ⟨start, limit, false⟩ e.1) = m.entries.drop n := by
  cases start with
  | none =>
    refine ⟨0, ?_, List.filter_eq_self.mpr fun _ _ => rfl⟩
    show (position.move m.entries .first, _) = _
    cases m.entries <;> rfl
  | some key =>
    refine ⟨rank m.entries key, Prod.ext (move_seek m.entries key position) rfl, ?_⟩
    refine filter_eq_drop (fun i hi hlt => ?_) fun i hi hle => ?_
    · exact decide_eq_false (not_not.mpr (lt_of_lt_rank hi hlt))
    · exact decide_eq_true (not_lt_of_rank_le hi hle)

/-- If a key is there, the entries up to it are those before the place behind it. -/
theorem filter_not_lt_of_here {key : Bytes} (hrank : rank m.entries key < m.entries.length)
    (hkey : m.entries[rank m.entries key].1 = key) :
    (m.entries.filter fun e => ¬ key < e.1) = m.entries.take (rank m.entries key + 1) := by
  refine filter_eq_take (fun i hi hlt => decide_eq_true ?_) fun i hi hle => ?_
  · rw [← hkey, Keyspace.getElem_lt_getElem_iff]
    omega
  · refine decide_eq_false (not_not.mpr ?_)
    rw [← hkey, Keyspace.getElem_lt_getElem_iff]
    omega

/-- If it is not, they are those before the place where it would be. -/
theorem filter_not_lt_of_gone {key : Bytes}
    (hgone : ∀ hrank : rank m.entries key < m.entries.length,
      m.entries[rank m.entries key].1 ≠ key) :
    (m.entries.filter fun e => ¬ key < e.1) = m.entries.take (rank m.entries key) := by
  refine filter_eq_take (fun i hi hlt => decide_eq_true ?_) fun i hi hle => ?_
  · exact Bytes.lt_asymm (lt_of_lt_rank hi hlt)
  · have hrank : rank m.entries key < m.entries.length := Nat.lt_of_le_of_lt hle hi
    have hafter : key < m.entries[rank m.entries key].1 := by
      rcases Bytes.lt_or_eq_or_gt key m.entries[rank m.entries key].1 with hlt | heq | hgt
      · exact hlt
      · exact absurd heq.symm (hgone hrank)
      · exact absurd hgt (not_lt_of_rank_le hrank (Nat.le_refl _))
    refine decide_eq_false (not_not.mpr ?_)
    rcases Nat.lt_or_eq_of_le hle with hless | rfl
    · exact Bytes.lt_trans hafter (Keyspace.getElem_lt_getElem hrank hi hless)
    · exact hafter

/-- A backward range has the entries up to some place, and a walk begins before it. -/
theorem approach_backward (m : Keyspace) (start : Option Bytes) (limit : Option Nat)
    (position : Position) :
    ∃ n, n ≤ m.entries.length ∧
      (walker m.entries).approach ⟨start, limit, true⟩ position = (behind n, .ok ()) ∧
      (m.entries.filter fun e => Range.holds ⟨start, limit, true⟩ e.1) = m.entries.take n := by
  have hlast : ∀ position : Position,
      position.move m.entries .last = behind m.entries.length := by
    intro position
    rw [move_last]
    cases m.entries <;> rfl
  cases start with
  | none =>
    refine ⟨m.entries.length, Nat.le_refl _, Prod.ext (hlast position) rfl, ?_⟩
    rw [List.take_length]
    exact List.filter_eq_self.mpr fun _ _ => rfl
  | some key =>
    have hmove : (walker m.entries).move (.seek key) position =
        (ahead m.entries (rank m.entries key), .ok ()) :=
      Prod.ext (move_seek m.entries key position) rfl
    by_cases hrank : rank m.entries key < m.entries.length
    · rw [ahead, if_pos hrank] at hmove
      have hseek : (walker m.entries).approach ⟨some key, limit, true⟩ position = _ :=
        Walker.approach_of_some hmove (List.getElem?_eq_getElem hrank)
      by_cases hkey : m.entries[rank m.entries key].1 = key
      · refine ⟨rank m.entries key + 1, hrank, ?_, filter_not_lt_of_here hrank hkey⟩
        rw [hseek, if_pos hkey]
        rfl
      · refine ⟨rank m.entries key, Nat.le_of_lt hrank, ?_, filter_not_lt_of_gone fun _ => hkey⟩
        rw [hseek, if_neg hkey]
        rfl
    · -- All keys are before the one that is sought.
      have hend : rank m.entries key = m.entries.length :=
        Nat.le_antisymm List.findIdx_le_length (Nat.le_of_not_lt hrank)
      rw [ahead, if_neg hrank] at hmove
      refine ⟨rank m.entries key, Nat.le_of_eq hend, ?_,
        filter_not_lt_of_gone fun h => absurd h hrank⟩
      rw [hend]
      exact (Walker.approach_of_none hmove rfl).trans (Prod.ext (hlast .off) rfl)

/-- Among the entries of a keyspace, a walk comes to an end and selects those of the range. -/
theorem selects_walker (range : Range) (m : Keyspace) (position : Position) :
    ∃ position', (walker m.entries).Selects range position position' (.ok (range.pick m)) := by
  rw [Range.pick_eq]
  obtain ⟨start, limit, backward⟩ := range
  cases backward with
  | false =>
    obtain ⟨n, happroach, hfilter⟩ := approach_forward m start limit position
    obtain ⟨position', hgathers⟩ := gathers_ahead m.entries limit n
    simp only [Bool.false_eq_true, if_false, hfilter]
    exact ⟨position', .done happroach hgathers⟩
  | true =>
    obtain ⟨n, hn, happroach, hfilter⟩ := approach_backward m start limit position
    obtain ⟨position', hgathers⟩ := gathers_behind m.entries limit hn
    simp only [if_true, hfilter]
    exact ⟨position', .done happroach hgathers⟩

end Position

end OrderedStore
