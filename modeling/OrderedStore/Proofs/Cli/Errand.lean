import OrderedStore.Cli.Run
import OrderedStore.Proofs.Batch
import OrderedStore.Proofs.Cli.Codec
import OrderedStore.Proofs.Walk

/-!
# Errands

An errand is what a command line asks for that reads or writes entries, with its arguments
decoded.  From the errands so far alone it is settled what a database holds that has been used
for nothing else: `kept` is the map, if a put has made the database at all, and `latest?` is
the value that was put last under a key and has not been removed since.  The two go together
(`kept_eq`, `get?_contents`).
-/

set_option autoImplicit false

namespace OrderedStore.Cli

/-! ## Command lines that read or write entries -/

/-- What is asked for. -/
inductive Errand where
  | get (key : Bytes)
  | put (key value : Bytes) (sync : Bool)
  | delete (key : Bytes) (sync : Bool)
  | scan (range : Range) (format : Format)
  deriving DecidableEq

/-- The errand of a command, if it is one on entries and its arguments can be decoded. -/
def Command.errand? (codec : Codec) : Command → Option Errand
  | .get key => (codec.decode key).toOption.map Errand.get
  | .put key value sync =>
    match codec.decode key, codec.decode value with
    | .ok key, .ok value => some (.put key value sync)
    | _, _ => none
  | .delete key sync => (codec.decode key).toOption.map (Errand.delete · sync)
  | .scan start limit reverse format =>
    (start.mapM codec.decode).toOption.map fun start => .scan ⟨start, limit, reverse⟩ format
  | _ => none

namespace Command

variable {codec : Codec} {key value : String} {sync : Bool} {errand : Errand}

theorem get_of_errand? (h : (Command.get key).errand? codec = some errand) :
    ∃ k, codec.decode key = .ok k ∧ errand = .get k := by
  cases hkey : codec.decode key with
  | error complaint => simp [errand?, hkey, Except.toOption] at h
  | ok k =>
    simp only [errand?, hkey] at h
    exact ⟨k, rfl, (Option.some.inj h).symm⟩

theorem put_of_errand? (h : (Command.put key value sync).errand? codec = some errand) :
    ∃ k w, codec.decode key = .ok k ∧ codec.decode value = .ok w ∧ errand = .put k w sync := by
  cases hkey : codec.decode key with
  | error complaint => simp [errand?, hkey] at h
  | ok k =>
    cases hvalue : codec.decode value with
    | error complaint => simp [errand?, hkey, hvalue] at h
    | ok w =>
      simp only [errand?, hkey, hvalue] at h
      exact ⟨k, w, rfl, rfl, (Option.some.inj h).symm⟩

theorem delete_of_errand? (h : (Command.delete key sync).errand? codec = some errand) :
    ∃ k, codec.decode key = .ok k ∧ errand = .delete k sync := by
  cases hkey : codec.decode key with
  | error complaint => simp [errand?, hkey, Except.toOption] at h
  | ok k =>
    simp only [errand?, hkey] at h
    exact ⟨k, rfl, (Option.some.inj h).symm⟩

theorem scan_of_errand? {start : Option String} {limit : Option Nat} {reverse : Bool}
    {format : Format} (h : (Command.scan start limit reverse format).errand? codec = some errand) :
    ∃ first, start.mapM codec.decode = .ok first ∧
      errand = .scan ⟨first, limit, reverse⟩ format := by
  cases hstart : start.mapM codec.decode with
  | error complaint => simp [errand?, hstart, Except.toOption] at h
  | ok first =>
    simp only [errand?, hstart] at h
    exact ⟨first, rfl, (Option.some.inj h).symm⟩

/-- Does the command write to the key of an argument? -/
def Writes (key : String) : Command → Prop
  | .put other _ _ | .delete other _ => other = key
  | _ => False

end Command

namespace Invocation

/-- How keys and values are written in a run of the program. -/
def codec (invocation : Invocation) : Codec := Codec.ofSwitch invocation.base64

/-- The errand of a run of the program. -/
def errand? (invocation : Invocation) : Option Errand :=
  invocation.command.errand? invocation.codec

end Invocation

/-- A value as it is printed, or that there is none. -/
def printValue (codec : Codec) : Option Bytes → Printed
  | some value => .line (codec.render value)
  | none => .note "(absent)"

namespace Errand

/-- What is written. -/
def mutation? : Errand → Option Mutation
  | .put key value _ => some (.put key value)
  | .delete key _ => some (.delete key)
  | .get _ | .scan _ _ => none

/-- Is a database made if there is none? -/
def founds : Errand → Bool
  | .put _ _ _ => true
  | _ => false

/-- What a database holds after an errand. -/
def update (kept : Option Keyspace) : Errand → Option Keyspace
  | .put key value _ => some ((kept.getD .empty).insert key value)
  | .delete key _ => kept.map fun m => m.erase key
  | .get _ | .scan _ _ => kept

/-- What is printed where a database holds `m`. -/
def print (codec : Codec) (m : Keyspace) : Errand → Printed
  | .get key => printValue codec (m.get? key)
  | .put _ _ _ | .delete _ _ => .nothing
  | .scan range format => printEntries codec (range.pick m) format

/-! ## Histories -/

/-- What a database holds after the errands of a history. -/
def kept (history : List Errand) : Option Keyspace := history.foldl update none

/-- The map that the writes of a history make. -/
def contents (history : List Errand) : Keyspace :=
  Keyspace.empty.applyAll (history.filterMap mutation?)

/-- The value that was put last under a key, if the key has not been removed since. -/
def latest? (history : List Errand) (key : Bytes) : Option Bytes :=
  (Mutation.lastOn? (history.filterMap mutation?) key).bind Mutation.value?

variable {history : List Errand} {errand : Errand} {key value : Bytes}

/-- An errand writes to the key of an argument. -/
theorem writes_of_mutation? {codec : Codec} {command : Command} {mutation : Mutation}
    (h : command.errand? codec = some errand) (hmutation : errand.mutation? = some mutation) :
    ∃ text, command.Writes text ∧ codec.decode text = .ok mutation.key := by
  cases command with
  | put key value sync =>
    obtain ⟨k, w, hkey, _, rfl⟩ := Command.put_of_errand? h
    obtain rfl := Option.some.inj hmutation
    exact ⟨key, rfl, hkey⟩
  | delete key sync =>
    obtain ⟨k, hkey, rfl⟩ := Command.delete_of_errand? h
    obtain rfl := Option.some.inj hmutation
    exact ⟨key, rfl, hkey⟩
  | get key =>
    obtain ⟨k, _, rfl⟩ := Command.get_of_errand? h
    exact nomatch hmutation
  | scan start limit reverse format =>
    obtain ⟨first, _, rfl⟩ := Command.scan_of_errand? h
    exact nomatch hmutation
  | _ => simp [Command.errand?] at h

theorem contents_concat (history : List Errand) (errand : Errand) :
    contents (history ++ [errand]) =
      (contents history).applyAll errand.mutation?.toList := by
  unfold contents
  rw [List.filterMap_append, Keyspace.applyAll_append]
  cases hmutation : errand.mutation? <;> simp [hmutation]

/-- Without a put, there is no database, and nothing for it to hold. -/
theorem kept_eq (history : List Errand) :
    kept history = (if history.any founds then some (contents history) else none) ∧
      (history.any founds = false → contents history = .empty) := by
  induction history using List.reverseRecOn with
  | nil => exact ⟨rfl, fun _ => rfl⟩
  | append_singleton before errand ih =>
    obtain ⟨hkept, hempty⟩ := ih
    have hstep : kept (before ++ [errand]) = update (kept before) errand := by
      unfold kept
      rw [List.foldl_append]
      rfl
    rw [hstep, contents_concat, hkept, List.any_append]
    cases hany : before.any founds with
    | true =>
      refine ⟨?_, fun h => by simp at h⟩
      cases errand <;> rfl
    | false =>
      rw [hempty hany]
      cases errand with
      | put key value sync => exact ⟨rfl, fun h => by simp [founds] at h⟩
      | _ => exact ⟨rfl, fun _ => rfl⟩

theorem kept_of_founded (h : history.any founds = true) :
    kept history = some (contents history) := by
  rw [(kept_eq history).1, if_pos h]

/-- The map has under each key what was put there last. -/
theorem get?_contents (history : List Errand) (key : Bytes) :
    (contents history).get? key = latest? history key := by
  unfold contents latest?
  rw [Keyspace.get?_applyAll, Keyspace.get?_empty]
  cases Mutation.lastOn? (history.filterMap mutation?) key <;> rfl

/-- Where a key has a value, there has been a put. -/
theorem any_founds_of_latest? (h : latest? history key = some value) :
    history.any founds = true := by
  cases hany : history.any founds with
  | true => rfl
  | false =>
    rw [← get?_contents, (kept_eq history).2 hany, Keyspace.get?_empty] at h
    exact nomatch h

/-- A put is the last word on its key as long as nothing that follows writes to it. -/
theorem latest?_of_put {before after : List Errand} {sync : Bool}
    (h : ∀ errand ∈ after, ∀ mutation, errand.mutation? = some mutation → mutation.key ≠ key) :
    latest? (before ++ .put key value sync :: after) key = some value := by
  have hafter : (after.filterMap mutation?).filter (fun mutation => mutation.key = key) = [] := by
    refine List.filter_eq_nil_iff.mpr fun mutation hmem => ?_
    obtain ⟨errand, herrand, hmutation⟩ := List.mem_filterMap.mp hmem
    simpa using h errand herrand mutation hmutation
  have hput : (Errand.put key value sync).mutation? = some (.put key value) := rfl
  have hlast : Mutation.lastOn?
      ((before ++ .put key value sync :: after).filterMap mutation?) key =
        some (.put key value) := by
    unfold Mutation.lastOn?
    rw [List.filterMap_append, List.filterMap_cons_some hput, List.filter_append,
      List.filter_cons_of_pos (by simp [Mutation.key]), hafter, List.getLast?_concat]
  rw [latest?, hlast]
  rfl

end Errand

end OrderedStore.Cli
