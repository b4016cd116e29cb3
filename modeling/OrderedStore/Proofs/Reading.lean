import OrderedStore.Proofs.Cursor
import OrderedStore.Proofs.Engine
import OrderedStore.Proofs.Store.Counters

/-!
# All ways of reading a view agree

A view answers seven questions: the value of a key, the first and the last entry, the
nearest entry at, after or before a key, and the number of entries.  `Keyspace.Reads` says
that the answers describe one list: whoever starts at the first entry and goes on to the
nearest one after it comes by this list (`Visits`), whoever starts at the last one and goes
back comes by its reverse, and each of the other answers can be told from it.

`Engine.read_paths_agree` says so of every view of an engine, after any commits and whatever
becomes of the engine file between them, and of the number that the session tells.
-/

set_option autoImplicit false

namespace OrderedStore

/-! ## Going from entry to entry -/

/-- Going on from an entry to the next one comes by a list of entries and then ends. -/
inductive Visits (next : Bytes → Option Entry) : Option Entry → List Entry → Prop where
  | stop : Visits next none []
  | step {e : Entry} {rest : List Entry} (h : Visits next (next e.1) rest) :
      Visits next (some e) (e :: rest)

/-- What is found is the first entry of a list that satisfies a condition, if there is one. -/
def First (p : Entry → Prop) (entries : List Entry) : Option Entry → Prop
  | none => ∀ e ∈ entries, ¬ p e
  | some e => ∃ earlier later, entries = earlier ++ e :: later ∧ p e ∧ ∀ d ∈ earlier, ¬ p d

theorem visits_of_getElem {next : Bytes → Option Entry} {entries : List Entry}
    (h : ∀ i (hi : i < entries.length), next entries[i].1 = entries[i + 1]?) :
    Visits next entries.head? entries := by
  induction entries with
  | nil => exact .stop
  | cons e rest ih =>
    have hnext : next e.1 = rest.head? := by
      simpa [List.head?_eq_getElem?] using h 0 (Nat.zero_lt_succ _)
    refine .step ?_
    rw [hnext]
    exact ih fun i hi => by simpa using h (i + 1) (Nat.succ_lt_succ hi)

theorem first_find? (p : Entry → Prop) [DecidablePred p] (entries : List Entry) :
    First p entries (entries.find? fun e => p e) := by
  cases hfind : entries.find? fun e => p e with
  | none =>
    intro e hmem
    simpa using List.find?_eq_none.mp hfind e hmem
  | some e =>
    obtain ⟨hp, earlier, later, heq, hnone⟩ := List.find?_eq_some_iff_append.mp hfind
    exact ⟨earlier, later, heq, by simpa using hp, fun d hmem => by simpa using hnone d hmem⟩

theorem First.mem {p : Entry → Prop} {entries : List Entry} {e : Entry}
    (h : First p entries (some e)) : e ∈ entries := by
  obtain ⟨earlier, later, rfl, _⟩ := h
  exact List.mem_append_right _ List.mem_cons_self

/-- In ascending order, the first entry at or after a key that is there is the key's own. -/
theorem First.eq_of_mem {entries : List Entry} (hascending : Ascending entries) {key : Bytes}
    {found : Option Entry} (h : First (fun e => key ≤ e.1) entries found) {value : Bytes}
    (hmem : (key, value) ∈ entries) : found = some (key, value) := by
  cases found with
  | none => exact absurd (Bytes.lt_irrefl key) (h _ hmem)
  | some e =>
    obtain ⟨earlier, later, rfl, hle, hnone⟩ := h
    rcases List.mem_append.mp hmem with hmem | hmem
    · exact absurd (Bytes.lt_irrefl key) (hnone _ hmem)
    · rcases List.mem_cons.mp hmem with heq | hmem
      · rw [heq]
      -- An entry further on has a greater key.
      · have hlater := (List.pairwise_cons.mp (List.pairwise_append.mp hascending).2.1).1
        exact absurd (hlater _ hmem) hle

theorem Ascending.takeWhile_eq_filter {entries : List Entry} (h : Ascending entries)
    (key : Bytes) :
    (entries.takeWhile fun e => e.1 < key) = entries.filter fun e => e.1 < key := by
  induction entries with
  | nil => rfl
  | cons e rest ih =>
    obtain ⟨hfirst, hrest⟩ := List.pairwise_cons.mp h
    by_cases hlt : e.1 < key
    · rw [List.takeWhile_cons_of_pos (by simpa using hlt),
        List.filter_cons_of_pos (by simpa using hlt), ih hrest]
    · have hnone : (rest.filter fun e => e.1 < key) = [] := by
        refine List.filter_eq_nil_iff.mpr fun d hmem hd => hlt ?_
        exact Bytes.lt_trans (hfirst d hmem) (by simpa using hd)
      rw [List.takeWhile_cons_of_neg (by simpa using hlt),
        List.filter_cons_of_neg (by simpa using hlt), hnone]

/-! ## The answers of a view -/

namespace Keyspace

/-- All answers of a view describe one list of entries. -/
structure Reads (m : Keyspace) (visited : List Entry) : Prop where
  forward : Visits m.after m.first visited
  backward : Visits m.before m.last visited.reverse
  ascending : Ascending visited
  size_eq : m.size = visited.length
  get?_iff : ∀ {key value : Bytes}, m.get? key = some value ↔ (key, value) ∈ visited
  seek : ∀ key, First (fun e => key ≤ e.1) visited (m.seek key)
  /-- A seek comes to the key itself exactly if the key has a value, and so to that value. -/
  seek_iff : ∀ {key value : Bytes}, m.seek key = some (key, value) ↔ m.get? key = some value
  after : ∀ key, First (fun e => key < e.1) visited (m.after key)
  before : ∀ key, First (fun e => e.1 < key) visited.reverse (m.before key)

theorem before_eq_find? (m : Keyspace) (key : Bytes) :
    m.before key = m.entries.reverse.find? fun e => e.1 < key := by
  rw [before, m.ascending.takeWhile_eq_filter, ← List.head?_reverse, ← List.filter_reverse,
    List.head?_filter]

/-- Before the key of an entry lies the one that the reverse list has next. -/
theorem before_getElem_reverse (m : Keyspace) {i : Nat} (hi : i < m.entries.reverse.length) :
    m.before m.entries.reverse[i].1 = m.entries.reverse[i + 1]? := by
  have hlength : i < m.entries.length := by rwa [List.length_reverse] at hi
  rw [List.getElem_reverse, before_getElem]
  split
  · exact (List.getElem?_eq_none (by rw [List.length_reverse]; omega)).symm
  · rw [List.getElem?_reverse (by omega)]
    rfl

theorem reads_entries (m : Keyspace) : m.Reads m.entries := by
  have hseek : ∀ key, First (fun e => key ≤ e.1) m.entries (m.seek key) :=
    fun key => first_find? (fun e => key ≤ e.1) m.entries
  refine ⟨?forward, ?backward, m.ascending, rfl, get?_eq_some_iff, hseek, ?seek_iff,
    fun key => first_find? (fun e => key < e.1) m.entries, fun key => ?before⟩
  case forward => exact visits_of_getElem fun i hi => after_getElem hi
  case backward =>
    rw [last, ← List.head?_reverse]
    exact visits_of_getElem fun i hi => m.before_getElem_reverse hi
  case seek_iff =>
    intro key value
    rw [get?_eq_some_iff]
    constructor
    · intro hfound
      have hfirst := hseek key
      rw [hfound] at hfirst
      exact hfirst.mem
    · exact (hseek key).eq_of_mem m.ascending
  case before =>
    rw [before_eq_find?]
    exact first_find? (fun e => e.1 < key) m.entries.reverse

end Keyspace

/-! ## The number that a session tells -/

namespace Store

variable {s : Store} {id : SessionId}

/-- The number of entries of an open session is that of its latest view, in decimal. -/
theorem property_numEntries {session : Session} (h : s.sessions.get? id = some session) :
    (s.property id (utf8 Property.numEntries.name)).2 =
      ((session.engine.view s.volume).map fun view => toString view.size).toOption := by
  rw [property_name h]
  simp only [compute, latest, h]

end Store

/-! ## Views after commits -/

/-- A list of writes that an engine is given to commit, with the volume as it is found then and
what the engine grants at that time. -/
structure Submission where
  volume : Volume
  mutations : List Mutation
  verdicts : Verdicts

namespace Engine

variable {engine : Engine} {v : Volume} {steps : List Submission}

/-- Commits a list of writes. -/
def submit (engine : Engine) (step : Submission) : Volume × Engine × Except Error Unit :=
  engine.commit step.volume step.mutations step.verdicts

/-- Commits lists of writes one after the other. -/
def commitEach (engine : Engine) (steps : List Submission) : Engine :=
  steps.foldl (fun engine step => (engine.submit step).2.1) engine

/-- The writes of those lists whose commits succeed. -/
def written (engine : Engine) : List Submission → List Mutation
  | [] => []
  | step :: rest =>
    (if (engine.submit step).2.2.isOk then step.mutations else []) ++
      written (engine.submit step).2.1 rest

theorem commitEach_cons (engine : Engine) (step : Submission) (steps : List Submission) :
    engine.commitEach (step :: steps) = (engine.submit step).2.1.commitEach steps := rfl

theorem view_eq_ok_iff {m : Keyspace} : engine.view v = .ok m ↔
    engine.failed = false ∧ engine.sound v = true ∧ m = engine.latest := by
  unfold view
  rw [← and_assoc, ← access_eq_ok_iff]
  cases engine.access v with
  | error e => simp [Except.map]
  | ok _ => simp [Except.map, eq_comm]

/-- An engine that has failed gives no view, whatever is committed. -/
theorem failed_commitEach (h : engine.failed = true) : (engine.commitEach steps).failed = true := by
  induction steps generalizing engine with
  | nil => exact h
  | cons step rest ih =>
    have haccess : engine.access step.volume = .error (.ofFault .previousIo) := by
      rw [access, if_pos h]
    rw [commitEach_cons, submit, commit_of_error haccess, accessed_of_failed h]
    exact ih h

/-- There is a view exactly if every commit has found the engine file sound, and then the
view has the writes of those commits that have succeeded. -/
theorem view_commitEach_iff {m : Keyspace} :
    (engine.commitEach steps).view v = .ok m ↔
      engine.failed = false ∧ (∀ step ∈ steps, engine.sound step.volume = true) ∧
        engine.sound v = true ∧ m = engine.latest.applyAll (engine.written steps) := by
  induction steps generalizing engine with
  | nil =>
    rw [view_eq_ok_iff]
    simp [commitEach, written, Keyspace.applyAll]
  | cons step rest ih =>
    rw [commitEach_cons, List.forall_mem_cons, written, submit]
    rcases commit_cases step.volume engine step.mutations step.verdicts with
      ⟨e, haccess, heq⟩ | ⟨haccess, _, heq⟩ | ⟨fault, haccess, _, heq⟩
    -- Whoever fails here fails for ever, and one of the conditions on the right fails, too.
    · have hfailed := access_accessed haccess
      have hnot : ¬ (engine.failed = false ∧ engine.sound step.volume = true) := by
        rw [← access_eq_ok_iff, haccess]
        simp
      rw [heq, view_eq_ok_iff, failed_commitEach hfailed]
      constructor
      · rintro ⟨hfalse, _⟩
        exact absurd hfalse.symm Bool.false_ne_true
      · rintro ⟨hhealthy, ⟨hsound, _⟩, _⟩
        exact absurd ⟨hhealthy, hsound⟩ hnot
    · obtain ⟨_, hsound⟩ := access_eq_ok_iff.mp haccess
      rw [heq, ih, Keyspace.applyAll_append]
      exact and_congr_right fun _ => and_congr_left fun _ => (and_iff_right hsound).symm
    · obtain ⟨_, hsound⟩ := access_eq_ok_iff.mp haccess
      rw [heq, ih]
      exact and_congr_right fun _ => and_congr_left fun _ => (and_iff_right hsound).symm

/-- Nothing is left out if the engine finds its file sound and grants everything. -/
theorem written_of_grants (hhealthy : engine.failed = false)
    (hsound : ∀ step ∈ steps, engine.sound step.volume = true)
    (hgrants : ∀ step ∈ steps, step.verdicts.Grants .write step.mutations) :
    engine.written steps = steps.flatMap Submission.mutations := by
  induction steps generalizing engine with
  | nil => rfl
  | cons step rest ih =>
    obtain ⟨hfirst, hlater⟩ := List.forall_mem_cons.mp hsound
    obtain ⟨hgranted, hrest⟩ := List.forall_mem_cons.mp hgrants
    have haccess := access_eq_ok_iff.mpr ⟨hhealthy, hfirst⟩
    rw [written, submit, commit_of_grants haccess hgranted, List.flatMap_cons]
    exact congrArg (step.mutations ++ ·) (ih hhealthy hlater hrest)

/-- Every view that an engine gives after any commits has the writes of those that have succeeded,
which are all that the engine grants, and reads alike in all ways; and the session that holds the
engine tells the number of its entries.  An engine gives a view unless it has met its file cut
off. -/
theorem read_paths_agree (engine : Engine) (steps : List Submission) (v : Volume) :
    (∀ m, (engine.commitEach steps).view v = .ok m ↔
      engine.failed = false ∧ (∀ step ∈ steps, engine.sound step.volume = true) ∧
        engine.sound v = true ∧ m = engine.latest.applyAll (engine.written steps)) ∧
    ∀ m, (engine.commitEach steps).view v = .ok m →
      ((∀ step ∈ steps, step.verdicts.Grants .write step.mutations) →
        m = engine.latest.applyAll (steps.flatMap Submission.mutations)) ∧
      ∃ visited, m.Reads visited ∧
        ∀ (s : Store) (id : SessionId) (session : Session), s.sessions.get? id = some session →
          session.engine = engine.commitEach steps → s.volume = v →
          (s.property id (utf8 Property.numEntries.name)).2 = some (toString visited.length) := by
  refine ⟨fun m => view_commitEach_iff, fun m hview => ⟨fun hgrants => ?_, m.entries,
    m.reads_entries, ?_⟩⟩
  · obtain ⟨hhealthy, hsound, _, hlatest⟩ := view_commitEach_iff.mp hview
    rw [hlatest, written_of_grants hhealthy hsound hgrants]
  · rintro s id session hsession hengine rfl
    rw [Store.property_numEntries hsession, hengine, hview]
    rfl

end Engine

end OrderedStore
