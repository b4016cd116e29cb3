import OrderedStore.Proofs.Cli.Visit
import OrderedStore.Proofs.Destruction

/-!
# Arguments that cannot be decoded

A run of the program may fail because an argument is no base64.  The start of a scan is
decoded before anything else is done, but a key or a value only when the database is open.
So the run comes down to opening the database and letting it go again (`Toured`): what a
database holds is not changed by that, and where it must exist nothing comes about but a
lock file.

A put however makes the database if there is none.  It is left behind, with nothing in it
(`undecodable_run`, `put_of_undecodable_key`).
-/

set_option autoImplicit false

namespace OrderedStore

namespace Volume

variable {v : Volume} {text : String} {data : FileId} {m : Keyspace}

/-! ## Databases -/

/-- What the database at the place of a written path holds, if there is one. -/
def holds? (v : Volume) (text : String) : Option Keyspace :=
  match v.node? (v.place text ++ ["data.redb"]) with
  | some (.file data) => (Engine.judge false (v.contents data)).toOption
  | _ => none

theorem holds?_of_node (h : v.node? (v.place text ++ ["data.redb"]) = some (.file data)) :
    v.holds? text = (Engine.judge false (v.contents data)).toOption := by
  unfold holds?
  rw [h]

theorem node?_of_holds? (h : v.holds? text = some m) :
    ∃ data, v.node? (v.place text ++ ["data.redb"]) = some (.file data) ∧
      Engine.judge false (v.contents data) = .ok m := by
  unfold holds? at h
  split at h
  · rename_i data hnode
    refine ⟨data, hnode, ?_⟩
    cases hjudge : Engine.judge false (v.contents data) with
    | ok found =>
      rw [hjudge] at h
      rw [Option.some.inj h]
    | error fault =>
      rw [hjudge] at h
      simp [Except.toOption] at h
  · simp at h

end Volume

open Volume

namespace Directory

/-- Who asks for a directory that must exist makes no other file than the lock file. -/
theorem addsLock_acquire (v : Volume) (text : String) : v.AddsLock (acquire v text).1 := by
  cases hacquire : acquire v text with
  | mk u outcome =>
    cases outcome with
    | error e =>
      obtain ⟨rfl, _⟩ := acquire_error hacquire
      exact fun _ => Or.inl rfl
    | ok lock =>
      obtain ⟨p, w, _, hreadies, _, rfl⟩ := acquire_ok hacquire
      exact hreadies.addsLock.of_nodes (node?_setLocked w lock true)

theorem addsLock_enter (v : Volume) (text : String) : v.AddsLock (enter v text).1 := by
  unfold enter
  split
  · exact addsLock_acquire v text
  · exact fun _ => Or.inl rfl

theorem addsLock_openAt {v : Volume} {text : String} {create : Bool}
    (h : create = false ∨ v.isThere text = true) : v.AddsLock (openAt v text create).1 := by
  unfold openAt
  split
  · exact addsLock_enter v text
  · rename_i hmissing
    rw [if_neg]
    · exact fun _ => Or.inl rfl
    · rw [h.resolve_right hmissing]
      exact Bool.false_ne_true

end Directory

namespace Engine

variable {v v' : Volume} {text : String} {options : Options} {engine : Engine} {create : Bool}
  {contents : Contents} {m : Keyspace}

/-! ## Opening a database and letting it go -/

/-- Where a database may be made, what is one already is still taken for what it is. -/
theorem judge_of_existing (h : judge false contents = .ok m) (create : Bool) :
    judge create contents = .ok m := by
  cases contents with
  | image keyspace => exact h
  | raw bytes =>
    simp only [judge, Image.judge] at h ⊢
    split at h
    · simp at h
    · rename_i hsome
      rw [if_neg hsome]
      exact h

/-- What an engine finds is what was there, or nothing in a new file. -/
theorem eq_getD_of_judge (h : judge create contents = .ok m) :
    m = (judge false contents).toOption.getD .empty := by
  cases hexisting : judge false contents with
  | ok found =>
    rw [judge_of_existing hexisting] at h
    exact (Except.ok.inj h).symm
  | error fault =>
    cases contents with
    | image keyspace => simp [judge] at hexisting
    | raw bytes =>
      simp only [judge, Image.judge] at h hexisting
      split at h
      · split at h
        · exact (Except.ok.inj h).symm
        · simp at h
      · rename_i hsome
        rw [if_neg hsome, h] at hexisting
        simp at hexisting

/-- A volume in which the database at a path has been opened and let go again.  Its engine file
has been read, and what was found there has been written back. -/
structure Toured (text : String) (create : Bool) (v v' : Volume) : Prop where
  names : v.Extends v'
  isLocked : ∀ id, v'.isLocked id = v.isLocked id
  data : ∃ data m, v'.node? (v.place text ++ ["data.redb"]) = some (.file data) ∧
    judge create (v.contents data) = .ok m ∧
    (∀ id, v'.contents id = if id = data then .image m else v.contents id) ∧
    (v.node? (v.place text ++ ["data.redb"]) = none → v.contents data = .raw [])
  addsLock : create = false ∨ v.isThere text = true ∧ v.holds? text ≠ none → v.AddsLock v'

/-- The engine file is where it was, or it is a new one. -/
theorem openFile_of_leads {w : Volume} {data : FileId} {p : Path} (hwell : v.WellFormed)
    (h : v.Leads text p)
    (hopen : v.openFile (Directory.dataPath text) create = .ok (w, data)) :
    (v.node? (p ++ ["data.redb"]) = none → create = true ∧ v.contents data = .raw []) ∧
      (v.node? (p ++ ["data.redb"]) ≠ none → w = v) := by
  obtain ⟨hfits, hnode⟩ := node?_of_openFile h hopen
  unfold openFile at hopen
  split at hopen
  · rename_i hcreate
    rw [Directory.dataPath, openOrCreate_join regular_data hfits h] at hopen
    split at hopen
    · rename_i hnone
      have hopened := Except.ok.inj hopen
      obtain rfl : v.files.fresh = data := congrArg Prod.snd hopened
      exact ⟨fun _ => ⟨hcreate, hwell.contents_fresh⟩, fun hsome => absurd hnone hsome⟩
    · simp at hopen
    · rename_i hsome
      obtain ⟨rfl, rfl⟩ := Prod.mk.inj (Except.ok.inj hopen)
      exact ⟨fun hnone => by simp [hsome] at hnone, fun _ => rfl⟩
  · cases hexisting : v.openExisting (Directory.dataPath text) with
    | error e =>
      rw [hexisting] at hopen
      simp [Except.map] at hopen
    | ok found =>
      rw [hexisting] at hopen
      obtain ⟨rfl, rfl⟩ := Prod.mk.inj (Except.ok.inj hopen)
      exact ⟨fun hnone => by simp [hnode] at hnone, fun _ => rfl⟩

theorem toured_of_openPath (hwell : v.WellFormed) {verdicts : Verdicts}
    (hclean : ∀ found, verdicts.finding found = .clean)
    (h : openPath v text options verdicts = (v', .ok engine)) :
    Toured text options.createIfMissing v (engine.release v') := by
  have hlocked := (takes_of_openPath hwell h).isLocked_release
  have hextends := (extends_openPath v text options verdicts).trans (extends_release engine _)
  rw [h] at hextends
  obtain ⟨u, directory, rebuilt, hdirectory, hchecked⟩ := openPath_ok h
  obtain ⟨_, opened, found, _, hengine, rfl, rfl, hkeyspace⟩ := openChecked_ok hchecked
  -- Nothing has been rebuilt, so what is written back is what was read.
  obtain ⟨_, rfl⟩ | ⟨_, hrebuilt⟩ := hkeyspace
  case inr =>
    rw [hclean] at hrebuilt
    simp at hrebuilt
  have hadds (hthere : options.createIfMissing = false ∨ v.isThere text = true) : v.AddsLock u := by
    have hopened := Directory.addsLock_openAt hthere
    rw [hdirectory] at hopened
    exact hopened
  obtain ⟨w, p, hsecured, htext, rfl⟩ := Directory.openAt_ok hwell hdirectory
  obtain ⟨t, data, m, hopen, _, rfl, hjudge, _, rfl, rfl⟩ := openData_ok hengine
  have hfiles := hsecured.intact.files
  have hwell' := hsecured.wellFormed
  have hleads := hsecured.leads_locked
  have hplace := hsecured.place_eq
  rw [htext] at hopen
  have hcontents (id : FileId) : t.contents id = v.contents id := by
    rw [(leaves_openFile hwell' hopen).contents, contents_setLocked, hfiles.contents]
  have hpresent := (Volume.Opened.of_openFile hwell' hopen).present
  have hnode := (node?_of_openFile hleads hopen).2
  obtain ⟨hnew, hsame⟩ := openFile_of_leads hwell' hleads hopen
  rw [hcontents] at hjudge
  refine ⟨hextends, hlocked, ⟨data, m, ?_, hjudge, fun id => ?_, fun hnone => ?_⟩, fun hthere => ?_⟩
  · simp only [release, store, Directory.release, node?_setLocked, node?_setContents]
    rw [hplace, hnode]
  · simp only [release, store, Directory.release, contents_setLocked, contents_setContents,
      hcontents, hpresent, and_true]
    by_cases hid : id = data <;> simp [hid]
  · -- No directory has been made under the name of the engine file.
    have hmissing : (w.setLocked directory.lock true).node? (p ++ ["data.redb"]) = none := by
      cases hfound : (w.setLocked directory.lock true).node? (p ++ ["data.redb"]) with
      | none => rfl
      | some node =>
        have hkept := (extends_openFile hopen).node hfound
        obtain rfl : node = .file data := Option.some.inj (hkept.symm.trans hnode)
        rw [node?_setLocked] at hfound
        rw [hplace] at hnone
        rcases hsecured.intact.new hfound hnone with ⟨hfile, _⟩ | ⟨hlock, _⟩
        · simp at hfile
        · rw [hplace] at hlock
          simp at hlock
    have hempty := (hnew hmissing).2
    rw [contents_setLocked, hfiles.contents] at hempty
    exact hempty
  · have hthere' := hthere.imp_right And.left
    -- The engine file has not been made, either because that is not allowed or because it is there.
    have hfound : (w.setLocked directory.lock true).node? (p ++ ["data.redb"]) ≠ none := by
      intro hnone
      rcases hthere with hcreate | ⟨_, hholds⟩
      · rw [(hnew hnone).1] at hcreate
        exact Bool.noConfusion hcreate
      · obtain ⟨m', hm⟩ := Option.ne_none_iff_exists'.mp hholds
        obtain ⟨data', hdata, _⟩ := node?_of_holds? hm
        rw [hplace] at hdata
        rw [node?_setLocked, hsecured.intact.names.node hdata] at hnone
        simp at hnone
    obtain rfl := hsame hfound
    refine (hadds hthere').of_nodes fun q => ?_
    simp only [release, store, Directory.release, node?_setLocked, node?_setContents]

namespace Toured

/-- Every file is left alone, but for one that has been read and written back. -/
theorem contents_cases (h : Toured text create v v') (id : FileId) :
    v'.contents id = v.contents id ∨
      ∃ m, judge create (v.contents id) = .ok m ∧ v'.contents id = .image m := by
  obtain ⟨data, m, _, hjudge, hcontents, _⟩ := h.data
  rw [hcontents]
  split
  · rename_i hid
    exact Or.inr ⟨m, hid ▸ hjudge, rfl⟩
  · exact Or.inl rfl

/-- A database holds what it held. -/
theorem keeps (h : Toured text create v v') {other : String} (hholds : v.holds? other = some m) :
    v'.holds? other = some m := by
  obtain ⟨data, hnode, hjudge⟩ := node?_of_holds? hholds
  have hplace := place_of_workingDirectory h.names.workingDirectory other
  rw [holds?_of_node (by rw [hplace]; exact h.names.node hnode)]
  rcases h.contents_cases data with heq | ⟨m', hjudge', heq⟩
  · rw [heq, hjudge]
    rfl
  · rw [judge_of_existing hjudge] at hjudge'
    rw [heq, Except.ok.inj hjudge']
    rfl

/-- At the path there is a database then.  One that is new holds nothing. -/
theorem holds?_eq (h : Toured text create v v') :
    v'.holds? text = some ((v.holds? text).getD .empty) := by
  obtain ⟨data, m, hnode, hjudge, hcontents, hnew⟩ := h.data
  have hplace := place_of_workingDirectory h.names.workingDirectory text
  have hthere : v'.holds? text = some m := by
    rw [holds?_of_node (by rw [hplace]; exact hnode), hcontents, if_pos rfl]
    rfl
  rw [hthere, eq_getD_of_judge hjudge]
  cases hbefore : v.node? (v.place text ++ ["data.redb"]) with
  | none =>
    rw [hnew hbefore, holds?, hbefore]
    rfl
  | some node =>
    have hkept := h.names.node hbefore
    obtain rfl : node = .file data := Option.some.inj (hkept.symm.trans hnode)
    rw [holds?_of_node hbefore]

end Toured

end Engine

namespace Store

variable {s : Store} {id : SessionId} {engine : Engine}

theorem volume_discard_of_engine (h : s.roster.engine? id = some engine) :
    (s.discard id).volume = engine.release s.volume := by
  rw [volume_discard]
  cases hsession : s.sessions.get? id with
  | none => simp [Roster.engine?, show s.roster.sessions.get? id = none from hsession] at h
  | some session =>
    rw [Roster.engine?, show s.roster.sessions.get? id = some session from hsession] at h
    rw [← Option.some.inj h]

end Store

namespace Cli

variable {s : Store} {v v' : Volume} {text : String} {options : Options}
  {use : SessionId → Step} {fault : Text.Base64.Fault} {invocation : Invocation}

/-! ## Commands whose arguments cannot be decoded -/

/-- An operation of the store does not fail for the sake of an argument. -/
theorem thenPrint_ne_base64 {α : Type} (result : Store × Except Error α) (print : α → Printed) :
    (thenPrint result print).2 ≠ .error (.base64 fault) := by
  obtain ⟨s, outcome⟩ := result
  cases outcome <;> simp [thenPrint, Except.mapError, Except.map]

/-- Only a session that has begun fails for the sake of an argument. -/
theorem withDatabase_of_base64 (h : (withDatabase text options use s).2 = .error (.base64 fault)) :
    ∃ t id, s.openAt text options = (t, .ok id) ∧ (use id t).2 = .error (.base64 fault) ∧
      (withDatabase text options use s).1 = (use id t).1.discard id := by
  unfold withDatabase at h ⊢
  cases hopen : s.openAt text options with
  | mk t outcome =>
    rw [hopen] at h
    cases outcome with
    | error e => simp at h
    | ok id =>
      simp only at h ⊢
      cases huses : use id t with
      | mk t' result =>
        rw [huses] at h
        cases result with
        | ok printed => simp at h
        | error complaint => exact ⟨t, id, rfl, by rw [huses]; exact h, by rw [huses]⟩

/-- Where a session fails for the sake of an argument it has done nothing. -/
def Careful (use : SessionId → Step) : Prop :=
  ∀ id t fault, (use id t).2 = .error (.base64 fault) → (use id t).1 = t

theorem careful_thenPrint {α : Type} (operate : SessionId → Store → Store × Except Error α)
    (print : α → Printed) : Careful fun id t => thenPrint (operate id t) print :=
  fun _ _ _ hused => absurd hused (thenPrint_ne_base64 _ _)

/-- The argument is decoded first. -/
theorem careful_of_decode {codec : Codec} {argument : String} {go : Bytes → SessionId → Step}
    (hgo : ∀ bytes, Careful (go bytes)) :
    Careful fun id t =>
      match codec.decode argument with
      | .error complaint => (t, .error complaint)
      | .ok bytes => go bytes id t := by
  intro id t fault hused
  cases hdecode : codec.decode argument with
  | error complaint => rfl
  | ok bytes =>
    simp only [hdecode] at hused
    exact hgo bytes id t fault hused

/-- Where a session has done nothing, the database has been opened and let go again. -/
theorem toured_of_withDatabase (hwell : v.WellFormed) (hcareful : Careful use)
    (h : (withDatabase text options use (.ofVolume v)).2 = .error (.base64 fault)) :
    Engine.Toured text options.createIfMissing v
      (withDatabase text options use (.ofVolume v)).1.volume := by
  obtain ⟨t, id, hopen, hused, hafter⟩ := withDatabase_of_base64 h
  rw [hafter, hcareful id t fault hused]
  cases hpath : Engine.openPath v text options .granting with
  | mk u outcome =>
    cases outcome with
    | error e =>
      obtain ⟨t', heq, _⟩ := Store.openAt_of_error (s := .ofVolume v) hpath
      rw [hopen] at heq
      simp at heq
    | ok engine =>
      obtain ⟨t', logger, heq, rfl, hroster⟩ := Store.openAt_of_ok (s := .ofVolume v) hpath
      rw [hopen] at heq
      obtain ⟨rfl, hid⟩ := Prod.mk.inj heq
      obtain rfl := Except.ok.inj hid
      have hengine : t.roster.engine? (Store.ofVolume v).sessions.fresh = some engine := by
        rw [hroster, Roster.engine?_openSession]
        exact if_pos rfl
      rw [Store.volume_discard_of_engine hengine]
      exact Engine.toured_of_openPath hwell (fun _ => rfl) hpath

namespace Invocation

/-- Is the command one that makes a database? -/
def founds (invocation : Invocation) : Bool :=
  match invocation.command with
  | .put _ _ _ => true
  | _ => false

/-- Is it a scan? -/
def scans (invocation : Invocation) : Bool :=
  match invocation.command with
  | .scan _ _ _ _ => true
  | _ => false

end Invocation

theorem withPath_of_base64 {path : Option String} {command : String} {go : String → Step}
    (h : (withPath path command go s).2 = .error (.base64 fault)) :
    ∃ text, path = some text ∧ withPath path command go s = go text s := by
  cases path with
  | none => simp [withPath] at h
  | some text => exact ⟨text, rfl, rfl⟩

/-- A command that fails for the sake of an argument does nothing at all if it is a scan, and
else its session does nothing. -/
theorem perform_of_base64 (h : (perform invocation s).2 = .error (.base64 fault)) :
    if invocation.scans then (perform invocation s).1 = s
    else ∃ text options use, invocation.path = some text ∧
      options.createIfMissing = invocation.founds ∧ Careful use ∧
        perform invocation s = withDatabase text options use s := by
  obtain ⟨path, verbose, base64, command⟩ := invocation
  cases command with
  | get key =>
    obtain ⟨text, hpath, heq⟩ := withPath_of_base64 h
    exact ⟨text, existing, _, hpath, rfl,
      careful_of_decode fun k => careful_thenPrint (fun id t => t.get id none k) _, heq⟩
  | put key value sync =>
    obtain ⟨text, hpath, heq⟩ := withPath_of_base64 h
    refine ⟨text, {}, _, hpath, rfl, fun id t fault hused => ?_, heq⟩
    cases hkey : (Codec.ofSwitch base64).decode key with
    | error complaint => rfl
    | ok k =>
      cases hvalue : (Codec.ofSwitch base64).decode value with
      | error complaint => rfl
      | ok w =>
        simp only [hkey, hvalue] at hused
        exact absurd hused (thenPrint_ne_base64 _ _)
  | delete key sync =>
    obtain ⟨text, hpath, heq⟩ := withPath_of_base64 h
    exact ⟨text, existing, _, hpath, rfl,
      careful_of_decode fun k => careful_thenPrint (fun id t => t.delete id k sync) _, heq⟩
  | scan start limit reverse format =>
    show (perform _ _).1 = s
    simp only [perform] at h ⊢
    split at h
    · rfl
    · -- With the start decoded, nothing is left to be decoded.
      obtain ⟨text, rfl, heq⟩ := withPath_of_base64 h
      obtain ⟨t, id, _, hused, _⟩ := withDatabase_of_base64 h
      exact absurd hused (thenPrint_ne_base64 _ _)
  | property name =>
    obtain ⟨text, rfl, _⟩ := withPath_of_base64 h
    change (property text name s).2 = _ at h
    obtain ⟨t, id, _, hused, _⟩ := withDatabase_of_base64 h
    split at hused <;> simp at hused
  | inspect format =>
    obtain ⟨text, rfl, _⟩ := withPath_of_base64 h
    change (inspect text format s).2 = _ at h
    obtain ⟨t, id, _, hused, _⟩ := withDatabase_of_base64 h
    simp at hused
  | destroy yes =>
    obtain ⟨text, rfl, _⟩ := withPath_of_base64 h
    cases yes with
    | true => exact absurd h (thenPrint_ne_base64 _ _)
    | false => simp [perform, withPath, destroy] at h
  | repair =>
    obtain ⟨text, rfl, _⟩ := withPath_of_base64 h
    exact absurd h (thenPrint_ne_base64 _ _)
  | version => simp [perform] at h

/-- What a run leaves that has failed for the sake of an argument. -/
structure Undone (invocation : Invocation) (v v' : Volume) : Prop where
  /-- Every file is left alone, but for an engine file that has been read and written back. -/
  contents : ∀ id, v'.contents id = v.contents id ∨
    ∃ m, Engine.judge invocation.founds (v.contents id) = .ok m ∧ v'.contents id = .image m
  isLocked : ∀ id, v'.isLocked id = v.isLocked id
  /-- A database, wherever it is, holds what it held. -/
  keeps : ∀ {text : String} {m : Keyspace}, v.holds? text = some m → v'.holds? text = some m
  /-- No directory and no engine file has come about unless a put has made the database. -/
  addsLock : (invocation.founds = true → ∃ text, invocation.path = some text ∧
    v.isThere text = true ∧ v.holds? text ≠ none) → v.AddsLock v'
  /-- A scan has done nothing at all. -/
  scans : invocation.scans = true → v' = v
  /-- A put leaves a database, and a new one holds nothing. -/
  founds : invocation.founds = true → ∃ text, invocation.path = some text ∧
    v'.holds? text = some ((v.holds? text).getD .empty)

/-- A run of the program with an argument that cannot be decoded changes no database.  All that
it can bring about is an empty one, by a put. -/
theorem undecodable_run {words : List String} (hwell : v.WellFormed)
    (hparse : parse words = .ok invocation)
    (h : (visit invocation v).2 = .error (.base64 fault)) :
    (run v words).2 = ⟨1, .note ("Error: " ++ (Complaint.base64 fault).literal)⟩ ∧
      Undone invocation v (run v words).1 := by
  rw [run_of_parse hparse, h]
  refine ⟨rfl, ?_⟩
  have hperform := perform_of_base64 h
  cases hscans : invocation.scans with
  | true =>
    rw [hscans, if_pos rfl] at hperform
    have hsame : (visit invocation v).1 = v := congrArg Store.volume hperform
    have hfounds : invocation.founds = false := by
      obtain ⟨path, verbose, base64, command⟩ := invocation
      cases command <;> first | rfl | exact nomatch hscans
    rw [hsame]
    exact ⟨fun _ => Or.inl rfl, fun _ => rfl, id, fun _ _ => Or.inl rfl, fun _ => rfl,
      fun hput => by simp [hfounds] at hput⟩
  | false =>
    rw [hscans, if_neg Bool.false_ne_true] at hperform
    obtain ⟨text, options, use, hpath, hcreate, hcareful, heq⟩ := hperform
    have htoured : Engine.Toured text invocation.founds v (visit invocation v).1 := by
      unfold visit at h ⊢
      rw [heq] at h ⊢
      rw [← hcreate]
      exact toured_of_withDatabase hwell hcareful h
    refine ⟨htoured.contents_cases, htoured.isLocked, htoured.keeps, fun hput => ?_,
      fun hscan => by simp [hscans] at hscan, fun _ => ⟨text, hpath, htoured.holds?_eq⟩⟩
    refine htoured.addsLock ?_
    cases hfounds : invocation.founds with
    | false => exact Or.inl rfl
    | true =>
      obtain ⟨other, hother, hthere⟩ := hput hfounds
      obtain rfl : other = text := Option.some.inj (hother.symm.trans hpath)
      exact Or.inr hthere

/-- The theorem on a command that would read a database that is closed. -/
theorem undecodable_get :
    furnished.WellFormed ∧
      parse ["--path", "db", "--base64", "get", "*"] = .ok ⟨some "db", false, true, .get "*"⟩ ∧
      (visit ⟨some "db", false, true, .get "*"⟩ furnished).2 =
        .error (.base64 (.invalidByte 0 42)) ∧
      Undone ⟨some "db", false, true, .get "*"⟩ furnished
        (run furnished ["--path", "db", "--base64", "get", "*"]).1 := by
  have hparse : parse ["--path", "db", "--base64", "get", "*"] =
      .ok ⟨some "db", false, true, .get "*"⟩ := by decide +kernel
  have hfault : (visit ⟨some "db", false, true, .get "*"⟩ furnished).2 =
      .error (.base64 (.invalidByte 0 42)) := by decide +kernel
  have hundecodable := undecodable_run wellFormed_furnished hparse hfault
  exact ⟨wellFormed_furnished, hparse, hfault, hundecodable.2⟩

/-- A put whose key cannot be decoded leaves a directory and an engine file behind where there was
nothing at all. -/
theorem put_of_undecodable_key :
    (run .empty ["--path", "db", "--base64", "put", "*", "AA=="]).2 =
        ⟨1, .note "Error: Base64(InvalidByte(0, 42))"⟩ ∧
      Volume.empty.isThere "db" = false ∧
      (run .empty ["--path", "db", "--base64", "put", "*", "AA=="]).1.leadsToDirectory "db" = true ∧
      (run .empty ["--path", "db", "--base64", "put", "*", "AA=="]).1.isThere "db/data.redb" =
        true := by
  refine ⟨?_, ?_, ?_, ?_⟩ <;> decide +kernel

end Cli

end OrderedStore
