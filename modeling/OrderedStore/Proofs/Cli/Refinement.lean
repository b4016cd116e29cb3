import OrderedStore.Proofs.Cli.Visit

/-!
# Runs of the program refine a map

The program is run again and again on one database, each time with its own choice of base64
and of syncing, and in between others may do to the file system what leaves that database alone.
What each run prints is settled by the errands before it (`Continues`): without a put there is no
database and everything but a put fails, and after one the program answers from the map that the
writes so far make.

One run keeps the database at rest with what is to be kept (`Turn.At.rests_play`), so a whole
sequence of runs does (`rests_played`), and every run begins on such a database
(`runs_refine_map`).
-/

set_option autoImplicit false

namespace OrderedStore.Cli

/-- A run of the program, and what others do to the files before it. -/
structure Turn where
  outside : Volume → Volume
  invocation : Invocation

namespace Turn

/-- The run is one on the entries of the database at a path, its arguments can be decoded, and
nobody else has changed that database. -/
structure At (text : String) (turn : Turn) : Prop where
  path : turn.invocation.path = some text
  decodes : turn.invocation.errand?.isSome = true
  outside : ∀ (v : Volume) (kept : Option Keyspace), v.Rests text kept →
    (turn.outside v).Rests text kept

/-- The file system after the run. -/
def play (v : Volume) (turn : Turn) : Volume := (visit turn.invocation (turn.outside v)).1

end Turn

/-- The file system after several runs. -/
def played (v : Volume) (turns : List Turn) : Volume := turns.foldl Turn.play v

/-- What has been asked for. -/
def errands (turns : List Turn) : List Errand :=
  turns.filterMap fun turn => turn.invocation.errand?

variable {v : Volume} {text : String} {kept : Option Keyspace} {turn : Turn}
  {turns before : List Turn} {errand : Errand}

theorem errands_cons (h : turn.invocation.errand? = some errand) (turns : List Turn) :
    errands (turn :: turns) = errand :: errands turns :=
  List.filterMap_cons_some (f := fun turn : Turn => turn.invocation.errand?) h

theorem errands_append (turns more : List Turn) :
    errands (turns ++ more) = errands turns ++ errands more := List.filterMap_append

/-! ## Keeping the database -/

theorem Turn.At.rests_play (hat : turn.At text)
    (herrand : turn.invocation.errand? = some errand) (h : v.Rests text kept) :
    (turn.play v).Rests text (errand.update kept) :=
  rests_visit (hat.outside v kept h) hat.path herrand

theorem rests_played (hat : ∀ turn ∈ turns, turn.At text) (h : v.Rests text kept) :
    (played v turns).Rests text ((errands turns).foldl Errand.update kept) := by
  induction turns generalizing v kept with
  | nil => exact h
  | cons turn rest ih =>
    have hturn := hat turn List.mem_cons_self
    obtain ⟨errand, herrand⟩ := Option.isSome_iff_exists.mp hturn.decodes
    have hplayed := ih (fun other hmem => hat other (List.mem_cons_of_mem _ hmem))
      (hturn.rests_play herrand h)
    rw [errands_cons herrand]
    exact hplayed

/-! ## What a run prints -/

/-- A run of the program that finds the file system `v`, after the runs `before`. -/
structure Continues (text : String) (before : List Turn) (v : Volume) (invocation : Invocation) :
    Prop where
  /-- Before the first put all else fails on the files, and no directory and no engine file
  comes about. -/
  missing : ∀ errand, invocation.errand? = some errand → errand.founds = false →
    (errands before).any Errand.founds = false →
      (∃ e, (visit invocation v).2 = .error (.database e) ∧ e.kind = .io) ∧
        v.AddsLock (visit invocation v).1 ∧
        (visit invocation v).1.isThere (Directory.dataPath text) = false
  put : ∀ key value sync, invocation.errand? = some (.put key value sync) →
    (visit invocation v).2 = .ok .nothing
  delete : ∀ key sync, invocation.errand? = some (.delete key sync) →
    (errands before).any Errand.founds = true → (visit invocation v).2 = .ok .nothing
  /-- A key shows the value that was put there last, unless it has been removed since. -/
  get : ∀ key, invocation.errand? = some (.get key) →
    (errands before).any Errand.founds = true →
      (visit invocation v).2 =
        .ok (printValue invocation.codec (Errand.latest? (errands before) key))
  /-- A scan shows the range of the map that all writes have made. -/
  scan : ∀ range format, invocation.errand? = some (.scan range format) →
    (errands before).any Errand.founds = true →
      (visit invocation v).2 = .ok
        (printEntries invocation.codec (range.pick (Errand.contents (errands before))) format)
  /-- With base64 throughout, a key shows the text that was given for its value last. -/
  base64 : (∀ turn ∈ before, turn.invocation.base64 = true) → invocation.base64 = true →
    ∀ {key value : String} {sync : Bool} {earlier later : List Turn} {turn : Turn},
      before = earlier ++ turn :: later → turn.invocation.command = .put key value sync →
      (∀ other ∈ later, ¬ other.invocation.command.Writes key) →
      invocation.command = .get key → (visit invocation v).2 = .ok (.line value)

/-- With base64, the texts of the last put of a key settle what is under it. -/
theorem latest?_of_base64 {key value : String} {k : Bytes} {sync : Bool}
    {earlier later : List Turn}
    (hat : ∀ other ∈ earlier ++ turn :: later, other.At text)
    (hbase64 : ∀ other ∈ earlier ++ turn :: later, other.invocation.base64 = true)
    (hput : turn.invocation.command = .put key value sync)
    (hlater : ∀ other ∈ later, ¬ other.invocation.command.Writes key)
    (hkey : Codec.base64.decode key = .ok k) :
    ∃ w, Errand.latest? (errands (earlier ++ turn :: later)) k = some w ∧
      Codec.base64.render w = value := by
  have hcodec : ∀ other ∈ earlier ++ turn :: later, other.invocation.codec = .base64 := by
    intro other hmem
    unfold Invocation.codec
    rw [hbase64 other hmem]
    rfl
  have hmem : turn ∈ earlier ++ turn :: later := by simp
  obtain ⟨errand, herrand⟩ := Option.isSome_iff_exists.mp (hat turn hmem).decodes
  have hasked := herrand
  unfold Invocation.errand? at hasked
  rw [hput, hcodec turn hmem] at hasked
  obtain ⟨k', w, hkey', hvalue, rfl⟩ := Command.put_of_errand? hasked
  obtain rfl := Except.ok.inj (hkey'.symm.trans hkey)
  refine ⟨w, ?_, Codec.render_of_decode hvalue⟩
  rw [errands_append, errands_cons herrand]
  refine Errand.latest?_of_put fun errand hasked mutation hmutation heq => ?_
  obtain ⟨other, hother, hasked⟩ := List.mem_filterMap.mp hasked
  have hthere : other ∈ earlier ++ turn :: later :=
    List.mem_append_right _ (List.mem_cons_of_mem _ hother)
  unfold Invocation.errand? at hasked
  rw [hcodec other hthere] at hasked
  -- A later write to the same bytes would have been given the same text for its key.
  obtain ⟨argument, hwrites, hargument⟩ := Errand.writes_of_mutation? hasked hmutation
  rw [heq] at hargument
  obtain rfl := Codec.decode_inj hargument hkey
  exact hlater other hother hwrites

section Visit

variable {history : List Errand} {invocation : Invocation}
  (h : v.Rests text (Errand.kept history)) (hpath : invocation.path = some text)
  (herrand : invocation.errand? = some errand)

include h hpath herrand

theorem visit_of_unfounded (hany : history.any Errand.founds = false)
    (hgone : errand.founds = false) :
    (∃ e, (visit invocation v).2 = .error (.database e) ∧ e.kind = .io) ∧
      v.AddsLock (visit invocation v).1 ∧
      (visit invocation v).1.isThere (Directory.dataPath text) = false := by
  have hkept : Errand.kept history = none := by
    rw [(Errand.kept_eq history).1, hany]
    rfl
  rw [hkept] at h
  obtain ⟨hfails, hagain, hadds⟩ := visit_of_missing h hpath herrand hgone
  exact ⟨hfails, hadds, hagain.isThere_data⟩

theorem visit_of_founded (hany : history.any Errand.founds = true) :
    (visit invocation v).2 = .ok (errand.print invocation.codec (Errand.contents history)) := by
  rw [Errand.kept_of_founded hany] at h
  have hthere : (errand.update (some (Errand.contents history))).isSome = true := by
    cases errand <;> rfl
  exact (visit_of_admits h hpath herrand hthere).1

end Visit

theorem get_of_founded {history : List Errand} {invocation : Invocation} {key : Bytes}
    (h : v.Rests text (Errand.kept history)) (hpath : invocation.path = some text)
    (herrand : invocation.errand? = some (.get key))
    (hany : history.any Errand.founds = true) :
    (visit invocation v).2 = .ok (printValue invocation.codec (Errand.latest? history key)) := by
  rw [visit_of_founded h hpath herrand hany, Errand.print, Errand.get?_contents]

/-- Every run of the program, after any others on one path where there was no database, does
what the map says that the writes before it have made. -/
theorem runs_refine_map (h : v.Rests text none) (hbefore : ∀ turn ∈ before, turn.At text)
    (hturn : turn.At text) :
    Continues text before (turn.outside (played v before)) turn.invocation := by
  have hrests : (turn.outside (played v before)).Rests text (Errand.kept (errands before)) :=
    hturn.outside _ _ (rests_played hbefore h)
  refine ⟨?_, ?_, ?_, ?_, ?_, ?_⟩
  · intro errand herrand hgone hany
    exact visit_of_unfounded hrests hturn.path herrand hany hgone
  · intro key value sync herrand
    exact (visit_of_admits hrests hturn.path herrand rfl).1
  · intro key sync herrand hany
    exact visit_of_founded hrests hturn.path herrand hany
  · intro key herrand hany
    exact get_of_founded hrests hturn.path herrand hany
  · intro range format herrand hany
    exact visit_of_founded hrests hturn.path herrand hany
  · rintro hall hbase64 key value sync earlier later put rfl hput hlater hcommand
    obtain ⟨errand, herrand⟩ := Option.isSome_iff_exists.mp hturn.decodes
    have hcodec : turn.invocation.codec = .base64 := by rw [Invocation.codec, hbase64]; rfl
    have hasked := herrand
    rw [Invocation.errand?, hcommand, hcodec] at hasked
    obtain ⟨k, hkey, rfl⟩ := Command.get_of_errand? hasked
    obtain ⟨w, hlatest, hrender⟩ := latest?_of_base64 hbefore hall hput hlater hkey
    rw [get_of_founded hrests hturn.path herrand (Errand.any_founds_of_latest? hlatest), hlatest,
      hcodec, printValue, hrender]

/-- The theorem on runs that look for a key in vain, put a value under it and remove another
key, all with base64, and then ask for the key. -/
theorem runs_refine_map_on_disk :
    Volume.empty.Rests "db" none ∧
      Continues "db"
        [⟨fun v => v, ⟨some "db", false, true, .get "aw=="⟩⟩,
          ⟨fun v => v, ⟨some "db", true, true, .put "aw==" "djE=" true⟩⟩,
          ⟨fun v => v, ⟨some "db", false, true, .delete "bGw=" false⟩⟩]
        (played .empty
          [⟨fun v => v, ⟨some "db", false, true, .get "aw=="⟩⟩,
            ⟨fun v => v, ⟨some "db", true, true, .put "aw==" "djE=" true⟩⟩,
            ⟨fun v => v, ⟨some "db", false, true, .delete "bGw=" false⟩⟩])
        ⟨some "db", false, true, .get "aw=="⟩ := by
  have hcreatable : Volume.empty.Creatable "db" :=
    Volume.creatable_of_grounded Volume.grounded_empty (by decide) (by decide +kernel)
      (by decide +kernel) (by decide +kernel) (by decide +kernel)
  have hrests : Volume.empty.Rests "db" none := .missing Volume.wellFormed_empty hcreatable
  have hget : Turn.At "db" ⟨fun v => v, ⟨some "db", false, true, .get "aw=="⟩⟩ :=
    ⟨rfl, by decide +kernel, fun _ _ h => h⟩
  have hput : Turn.At "db" ⟨fun v => v, ⟨some "db", true, true, .put "aw==" "djE=" true⟩⟩ :=
    ⟨rfl, by decide +kernel, fun _ _ h => h⟩
  have hdelete : Turn.At "db" ⟨fun v => v, ⟨some "db", false, true, .delete "bGw=" false⟩⟩ :=
    ⟨rfl, by decide +kernel, fun _ _ h => h⟩
  refine ⟨hrests, runs_refine_map hrests (fun turn hmem => ?_) hget⟩
  simp only [List.mem_cons, List.not_mem_nil, or_false] at hmem
  rcases hmem with rfl | rfl | rfl
  · exact hget
  · exact hput
  · exact hdelete

end OrderedStore.Cli
