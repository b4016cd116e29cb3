import OrderedStore.Gateway.Serve
import OrderedStore.Proofs.Batch
import OrderedStore.Proofs.Store.Run
import OrderedStore.Proofs.Text.Plain
import OrderedStore.Proofs.Trial.Model

/-!
# Writes are atomic folds

A write commits the fold of its operations over the latest map, or it commits nothing.
`write_is_atomic_fold` says so for every store, whatever has become of its files and whatever
step of the write the engine refuses, and says what the fold is: the last operation on a key
decides, the plain model does the same, and so do the operations carried out one by one.

One by one, each operation is a write of its own, which the engine may refuse alone: what is
carried out then is the fold of those that it has not (`committed?_one_by_one`).  If all of them
are granted, the store is the one that the batch leaves (`run_one_by_one`).
-/

set_option autoImplicit false

namespace OrderedStore

/-- No write changes a batch. -/
theorem Gateway.batches_write (g : Gateway) (t : Token) (sync : Bool) (u : Token) :
    (g.serve (.write t sync u)).1.batches = g.batches := by
  have hperform : (g.clearError.perform (.write t sync u)).1.batches = g.batches := by
    unfold perform withFound onStore withStore
    simp only
    repeat' split
    all_goals rfl
  unfold serve
  simp only
  split
  · exact hperform
  · exact hperform

namespace Store

variable {s : Store} {id : SessionId} {m : Keyspace}

/-! ## What a commit leaves -/

theorem commit_eq {session : Session} (h : s.sessions.get? id = some session) (write : Write) :
    s.commit id write =
      ({ s with volume := (session.engine.commit s.volume write.mutations s.verdicts).1
          }.modifySession id fun row =>
            { row with engine := (session.engine.commit s.volume write.mutations s.verdicts).2.1 },
        (session.engine.commit s.volume write.mutations s.verdicts).2.2) := by
  simp only [commit, h]

/-- The session after a commit. -/
theorem get?_sessions_commit {session : Session} (h : s.sessions.get? id = some session)
    (write : Write) :
    (s.commit id write).1.sessions.get? id = some { session with
      engine := (session.engine.commit s.volume write.mutations s.verdicts).2.1 } := by
  rw [commit_eq h]
  show (s.sessions.modify id _).get? id = _
  rw [Table.get?_modify, if_pos rfl, h]
  rfl

/-- The store whose session has committed a keyspace. -/
def settle (s : Store) (id : SessionId) (engine : Engine) (keyspace : Keyspace) : Store :=
  { s with volume := engine.store s.volume keyspace }.modifySession id
    fun row => { row with engine := { engine with latest := keyspace } }

theorem settle_settle (s : Store) (id : SessionId) (engine : Engine) (keyspace later : Keyspace) :
    (s.settle id engine keyspace).settle id { engine with latest := keyspace } later =
      s.settle id engine later := by
  have hvolume : (s.settle id engine keyspace).volume = engine.store s.volume keyspace := rfl
  have hsame : Engine.store (engine.store s.volume keyspace)
      { engine with latest := keyspace } later = engine.store s.volume later :=
    Engine.store_store s.volume engine keyspace later
  rw [settle, hvolume, hsame]
  simp only [settle, modifySession, Table.modify_modify]

theorem get?_sessions_settle {session : Session} (h : s.sessions.get? id = some session)
    (engine : Engine) (keyspace : Keyspace) :
    (s.settle id engine keyspace).sessions.get? id =
      some { session with engine := { engine with latest := keyspace } } := by
  show (s.sessions.modify id _).get? id = _
  rw [Table.get?_modify, if_pos rfl, h]
  rfl

/-- What a commit on an open session comes to: the engine is not to be had, or it grants every
step, or it refuses one. -/
theorem commit_cases {session : Session} (h : s.sessions.get? id = some session) (write : Write) :
    (∃ e, session.engine.access s.volume = .error e ∧ (s.commit id write).2 = .error e) ∨
      (session.engine.access s.volume = .ok () ∧ s.verdicts.Grants .write write.mutations ∧
        s.commit id write = (s.settle id session.engine
          (session.engine.latest.applyAll write.mutations), .ok ())) ∨
      ∃ fault, session.engine.access s.volume = .ok () ∧
        s.verdicts.Refuses .write write.mutations fault ∧
        (s.commit id write).2 = .error (.ofFault fault) := by
  rw [commit_eq h]
  rcases Engine.commit_cases s.volume session.engine write.mutations s.verdicts with
    ⟨e, haccess, heq⟩ | ⟨haccess, hgrants, heq⟩ | ⟨fault, haccess, hrefuses, heq⟩
  · rw [heq]
    exact Or.inl ⟨e, haccess, rfl⟩
  · rw [heq]
    exact Or.inr (Or.inl ⟨haccess, hgrants, rfl⟩)
  · rw [heq]
    exact Or.inr (Or.inr ⟨fault, haccess, hrefuses, rfl⟩)

/-- A commit comes off if the engine is to be had and grants every step of it. -/
theorem commit_eq_ok_iff {session : Session} (h : s.sessions.get? id = some session)
    (write : Write) :
    (s.commit id write).2 = .ok () ↔
      session.engine.access s.volume = .ok () ∧ s.verdicts.Grants .write write.mutations := by
  rcases commit_cases h write with
    ⟨e, haccess, houtcome⟩ | ⟨haccess, hgrants, heq⟩ | ⟨fault, haccess, hrefuses, houtcome⟩
  · simp [houtcome, haccess]
  · simp [heq, haccess, hgrants]
  · rw [houtcome]
    exact iff_of_false (by simp) fun hboth => hboth.2.not_refuses fault hrefuses

theorem commit_of_ok {session : Session} (h : s.sessions.get? id = some session) {write : Write}
    (hok : (s.commit id write).2 = .ok ()) :
    s.commit id write = (s.settle id session.engine
      (session.engine.latest.applyAll write.mutations), .ok ()) := by
  rcases commit_cases h write with ⟨e, _, houtcome⟩ | ⟨_, _, heq⟩ | ⟨fault, _, _, houtcome⟩
  · rw [houtcome] at hok
    simp at hok
  · exact heq
  · rw [houtcome] at hok
    simp at hok

/-! ## All or nothing -/

theorem session_of_committed? (h : s.roster.committed? id = some m) :
    ∃ session, s.sessions.get? id = some session ∧ session.engine.latest = m := by
  obtain ⟨engine, hengine, rfl⟩ := Option.map_eq_some_iff.mp h
  obtain ⟨session, hsession, rfl⟩ := Option.map_eq_some_iff.mp hengine
  exact ⟨session, hsession, rfl⟩

theorem committed?_of_session {session : Session} (h : s.sessions.get? id = some session) :
    s.roster.committed? id = some session.engine.latest := by
  show ((s.sessions.get? id).map Session.engine).map Engine.latest = _
  rw [h]
  rfl

/-- A commit leaves the fold of its mutations to be read, or else the map and the files as
they were. -/
theorem commit_all_or_nothing (h : s.roster.committed? id = some m) (write : Write) :
    ((s.commit id write).2 = .ok () ∧
        (s.commit id write).1.roster.committed? id = some (m.applyAll write.mutations) ∧
        ((s.commit id write).1.latest id).2 = .ok (m.applyAll write.mutations)) ∨
      ∃ e, (s.commit id write).2 = .error e ∧
        (s.commit id write).1.roster.committed? id = some m ∧
        (s.commit id write).1.volume = s.volume ∧
        ((s.latest id).2 = .ok m → ((s.commit id write).1.latest id).2 = .ok m) := by
  obtain ⟨session, hsession, rfl⟩ := session_of_committed? h
  have hafter := get?_sessions_commit hsession write
  obtain ⟨_, hvolume, houtcome⟩ := commit_of_open hsession write
  rw [houtcome, committed?_of_session hafter, latest_of_open hafter, hvolume,
    latest_of_open hsession]
  rcases Engine.commit_cases s.volume session.engine write.mutations s.verdicts with
    ⟨e, haccess, heq⟩ | ⟨haccess, _, heq⟩ | ⟨fault, haccess, _, heq⟩
  · rw [heq]
    refine Or.inr ⟨e, rfl, rfl, rfl, fun hview => ?_⟩
    rw [Engine.view, haccess] at hview
    simp [Except.map] at hview
  · rw [heq]
    refine Or.inl ⟨rfl, rfl, ?_⟩
    rw [Engine.view, Engine.access_store haccess]
    rfl
  · rw [heq]
    exact Or.inr ⟨_, rfl, rfl, rfl, fun hview => hview⟩

/-- What has been committed is in the file. -/
theorem contents_commit {engine : Engine} {home : Home}
    (hengine : s.roster.engine? id = some engine) (hhome : engine.home = some home)
    {write : Write} (h : (s.commit id write).2 = .ok ()) :
    (s.commit id write).1.volume.contents home.data =
      .image (engine.latest.applyAll write.mutations) := by
  obtain ⟨session, hsession, rfl⟩ := Option.map_eq_some_iff.mp hengine
  obtain ⟨haccess, _⟩ := (commit_eq_ok_iff hsession write).mp h
  obtain ⟨_, hsound⟩ := Engine.access_eq_ok_iff.mp haccess
  rw [commit_of_ok hsession h]
  show (session.engine.store s.volume _).contents home.data = _
  rw [Engine.store_of_home hhome]
  exact (Volume.contents_setContents _ _ _ _).trans
    (if_pos ⟨rfl, Engine.isSome_of_sound hhome hsound⟩)

/-! ## One by one -/

/-- The answers to actions carried out one after the other. -/
def answers (s : Store) : List Action → List Answer
  | [] => []
  | action :: rest => (s.perform action).2 :: answers (s.perform action).1 rest

/-- Has an action been done? -/
def Answer.isDone : Answer → Bool
  | .done (.ok ()) => true
  | _ => false

/-- Those of a list of mutations that have been done, going by the answers to them. -/
def done (mutations : List Mutation) (answers : List Answer) : List Mutation :=
  ((mutations.zip answers).filter fun pair => pair.2.isDone).map Prod.fst

theorem done_cons (mutation : Mutation) (answer : Answer) (mutations : List Mutation)
    (answers : List Answer) :
    done (mutation :: mutations) (answer :: answers) =
      if answer.isDone then mutation :: done mutations answers else done mutations answers := by
  unfold done
  rw [List.zip_cons_cons, List.filter_cons]
  split <;> rfl

/-- The action carries out one mutation on a session. -/
inductive Action.CarriesOut (id : SessionId) : Mutation → Action → Prop where
  | put (key value : Bytes) (sync : Bool) :
    CarriesOut id (.put key value) (.put id key value sync)
  | putSome (key value : Bytes) (sync : Bool) :
    CarriesOut id (.put key value) (.putOption id key (some value) sync)
  | delete (key : Bytes) (sync : Bool) : CarriesOut id (.delete key) (.delete id key sync)
  | putNone (key : Bytes) (sync : Bool) : CarriesOut id (.delete key) (.putOption id key none sync)

theorem perform_of_carriesOut {mutation : Mutation} {action : Action}
    (h : Action.CarriesOut id mutation action) (s : Store) (sync : Bool) :
    s.perform action =
      ((s.commit id ⟨[mutation], sync⟩).1, .done (s.commit id ⟨[mutation], sync⟩).2) := by
  cases h <;> rfl

section OneByOne

variable {mutations : List Mutation} {actions : List Action}

theorem run_cons_of_carriesOut {mutation : Mutation} {action : Action}
    (h : Action.CarriesOut id mutation action) (s : Store) (rest : List Action) :
    s.run (action :: rest) = (s.commit id ⟨[mutation], false⟩).1.run rest ∧
      s.answers (action :: rest) = .done (s.commit id ⟨[mutation], false⟩).2 ::
        (s.commit id ⟨[mutation], false⟩).1.answers rest := by
  have hperform := perform_of_carriesOut h s false
  refine ⟨?_, ?_⟩
  · rw [run, List.foldl_cons, hperform]
    rfl
  · rw [answers, hperform]

/-- Whatever is refused on the way, the fold of the mutations that have been done is committed. -/
theorem committed?_one_by_one (h : s.roster.committed? id = some m)
    (hactions : List.Forall₂ (Action.CarriesOut id) mutations actions) :
    (s.run actions).roster.committed? id =
      some (m.applyAll (done mutations (s.answers actions))) := by
  induction hactions generalizing s m with
  | nil => exact h
  | @cons mutation action rest actions hfirst hrest ih =>
    obtain ⟨hrun, hanswers⟩ := run_cons_of_carriesOut hfirst s actions
    rw [hrun, hanswers, done_cons]
    rcases commit_all_or_nothing h ⟨[mutation], false⟩ with
      ⟨hok, hcommitted, _⟩ | ⟨e, herror, hcommitted, _⟩
    · rw [hok, ih hcommitted]
      rfl
    · rw [herror, ih hcommitted]
      rfl

theorem done_eq_self {answers : List Answer} (hlength : answers.length = mutations.length)
    (h : ∀ answer ∈ answers, answer = .done (.ok ())) : done mutations answers = mutations := by
  induction mutations generalizing answers with
  | nil => rfl
  | cons mutation rest ih =>
    cases answers with
    | nil => simp at hlength
    | cons answer answers =>
      obtain ⟨rfl, hrest⟩ := List.forall_mem_cons.mp h
      rw [done_cons, ih (Nat.succ.inj hlength) hrest]
      rfl

theorem length_answers (s : Store) (actions : List Action) :
    (s.answers actions).length = actions.length := by
  induction actions generalizing s with
  | nil => rfl
  | cons action rest ih => exact congrArg Nat.succ (ih _)

/-- Mutations that are all done one by one leave a store that has settled on their fold. -/
theorem run_one_by_one {session : Session} (h : s.sessions.get? id = some session)
    (hactions : List.Forall₂ (Action.CarriesOut id) mutations actions) (hne : mutations ≠ [])
    (hdone : ∀ answer ∈ s.answers actions, answer = .done (.ok ())) :
    s.run actions = s.settle id session.engine (session.engine.latest.applyAll mutations) := by
  induction hactions generalizing s session with
  | nil => exact absurd rfl hne
  | @cons mutation action rest actions hfirst hrest ih =>
    obtain ⟨hrun, hanswers⟩ := run_cons_of_carriesOut hfirst s actions
    rw [hanswers] at hdone
    obtain ⟨hok, hothers⟩ := List.forall_mem_cons.mp hdone
    have hfirst' := commit_of_ok h (Answer.done.inj hok)
    rw [hfirst'] at hothers
    rw [hrun, hfirst']
    cases hrest with
    | nil => rfl
    | cons hsecond hthird =>
      rw [ih (get?_sessions_settle h _ _) (List.cons_ne_nil _ _) hothers, settle_settle]
      rfl

/-- If the engine is to be had, all of the mutations are done one by one exactly if each of them
is granted. -/
theorem answers_one_by_one {session : Session} (h : s.sessions.get? id = some session)
    (haccess : session.engine.access s.volume = .ok ())
    (hactions : List.Forall₂ (Action.CarriesOut id) mutations actions) :
    (∀ answer ∈ s.answers actions, answer = .done (.ok ())) ↔
      ∀ mutation ∈ mutations, s.verdicts.Grants .write [mutation] := by
  induction hactions generalizing s session with
  | nil => simp [answers]
  | @cons mutation action rest actions hfirst hrest ih =>
    obtain ⟨_, hanswers⟩ := run_cons_of_carriesOut hfirst s actions
    rw [hanswers, List.forall_mem_cons, List.forall_mem_cons, Answer.done.injEq,
      commit_eq_ok_iff h, and_iff_right haccess]
    refine and_congr_right fun hgrants => ?_
    -- What has been granted leaves the engine where the next one can be granted, too.
    rw [commit_of_ok h ((commit_eq_ok_iff h _).mpr ⟨haccess, hgrants⟩)]
    exact ih (get?_sessions_settle h _ _) (Engine.access_store haccess _)

/-- An engine that judges every step by itself grants a batch exactly if it grants its operations
one by one. -/
theorem commit_eq_ok_iff_one_by_one {session : Session} (h : s.sessions.get? id = some session)
    (hactions : List.Forall₂ (Action.CarriesOut id) mutations actions) (hne : mutations ≠ [])
    (halone : s.verdicts.JudgesAlone) (sync : Bool) :
    (s.commit id ⟨mutations, sync⟩).2 = .ok () ↔
      ∀ answer ∈ s.answers actions, answer = .done (.ok ()) := by
  rw [commit_eq_ok_iff h]
  cases haccess : session.engine.access s.volume with
  | ok _ =>
    rw [answers_one_by_one h haccess hactions, ← halone.grants_iff_single hne]
    exact and_iff_right rfl
  | error e =>
    refine iff_of_false (by simp) fun hdone => ?_
    -- Already the first operation fails.
    cases hactions with
    | nil => exact hne rfl
    | cons hfirst hrest =>
      rw [(run_cons_of_carriesOut hfirst s _).2] at hdone
      have hok := Answer.done.inj (List.forall_mem_cons.mp hdone).1
      rw [((commit_eq_ok_iff h _).mp hok).1] at haccess
      simp at haccess

end OneByOne

/-! ## Writing a batch -/

/-- What writing a batch comes to on a session whose latest map is `m`. -/
structure AtomicWrite (s : Store) (id : SessionId) (m : Keyspace) (batch : Batch) (sync : Bool) :
    Prop where
  /-- All of the operations are committed and read, from the left to the right, or none is. -/
  outcome :
    ((s.write id batch sync).2 = .ok () ∧
        (s.write id batch sync).1.roster.committed? id = some (m.applyAll batch.operations) ∧
        ((s.write id batch sync).1.latest id).2 = .ok (m.applyAll batch.operations)) ∨
      ∃ e, (s.write id batch sync).2 = .error e ∧
        (s.write id batch sync).1.roster.committed? id = some m ∧
        (s.write id batch sync).1.volume = s.volume ∧
        ((s.latest id).2 = .ok m → ((s.write id batch sync).1.latest id).2 = .ok m)
  /-- They are committed if the latest map can be read and the engine grants every step. -/
  granted : (s.write id batch sync).2 = .ok () ↔
    (s.latest id).2 = .ok m ∧ s.verdicts.Grants .write batch.operations
  /-- What has been committed is in the engine file, if there is one. -/
  stored : ∀ {engine : Engine} {home : Home}, s.roster.engine? id = some engine →
    engine.home = some home → (s.write id batch sync).2 = .ok () →
    (s.write id batch sync).1.volume.contents home.data = .image (m.applyAll batch.operations)
  /-- The last operation on a key decides, and other keys keep their values. -/
  last : ∀ key, (m.applyAll batch.operations).get? key =
    ((Mutation.lastOn? batch.operations key).map Mutation.value?).getD (m.get? key)
  /-- The plain model does the same. -/
  agrees : ∀ model : Trial.Model, model.agrees m.entries = true →
    (model.applyAll batch.operations).agrees (m.applyAll batch.operations).entries = true
  /-- So do the operations carried out one by one, as far as they are done. -/
  one_by_one : ∀ actions, List.Forall₂ (Action.CarriesOut id) batch.operations actions →
    (s.run actions).roster.committed? id =
        some (m.applyAll (done batch.operations (s.answers actions))) ∧
      ((∀ answer ∈ s.answers actions, answer = .done (.ok ())) →
        (s.run actions).roster.committed? id = some (m.applyAll batch.operations) ∧
          (batch.operations ≠ [] → (s.write id batch sync).2 = .ok () →
            s.run actions = (s.write id batch sync).1)) ∧
      (s.verdicts.JudgesAlone → batch.operations ≠ [] → ((s.write id batch sync).2 = .ok () ↔
        ∀ answer ∈ s.answers actions, answer = .done (.ok ())))
  /-- Writing the batch again at once changes nothing.  If it has been written, the engine may
  even have changed its mind. -/
  again : ∀ sync',
    ((s.write id batch sync).1.write id batch sync').1 = (s.write id batch sync).1 ∧
      ((s.write id batch sync).2 = .ok () → ∀ verdicts,
        (((s.write id batch sync).1.perform (.sway verdicts)).1.write id batch sync').1 =
          ((s.write id batch sync).1.perform (.sway verdicts)).1)

theorem write_write {session : Session} (h : s.sessions.get? id = some session) (batch : Batch)
    (sync sync' : Bool) {later : Verdicts}
    (hlater : later = s.verdicts ∨ (s.write id batch sync).2 = .ok ()) :
    (({ (s.write id batch sync).1 with verdicts := later }).write id batch sync').1 =
      { (s.write id batch sync).1 with verdicts := later } := by
  obtain ⟨_, _, houtcome⟩ := commit_of_open h ⟨batch.operations, sync⟩
  rw [write, houtcome] at hlater
  obtain ⟨hvolume, hengine⟩ := Engine.commit_again s.volume session.engine batch.operations
    s.verdicts hlater
  have hafter := get?_sessions_commit h ⟨batch.operations, sync⟩
  rw [write, write, commit_eq (s := { (s.commit id ⟨batch.operations, sync⟩).1 with
    verdicts := later }) hafter]
  rw [commit_eq h]
  simp only [modifySession, hvolume, hengine, Table.modify_modify]

/-- A write commits the fold of its operations, or nothing; no write changes the batch; and a
batch that has been filled in any way has the operations queued since it was emptied. -/
theorem write_is_atomic_fold (h : s.roster.committed? id = some m) (batch : Batch)
    (sync : Bool) :
    s.AtomicWrite id m batch sync ∧
      (∀ (g : Gateway) (t u : Token), (g.serve (.write t sync u)).1.batches = g.batches) ∧
      (∀ mutations, (Batch.ofList mutations).operations = mutations) ∧
      ∀ fillings, (fillings.foldl Batch.fill .empty).operations = Batch.queued fillings := by
  obtain ⟨session, hsession, hlatest⟩ := session_of_committed? h
  refine ⟨⟨commit_all_or_nothing h _, ?_, ?_, m.get?_applyAll _, ?_, ?_, fun sync' => ?_⟩,
    fun g t u => g.batches_write t sync u, Batch.operations_ofList, Batch.operations_foldl_fill⟩
  · rw [write, commit_eq_ok_iff hsession, latest_of_open hsession, Engine.view, hlatest]
    cases session.engine.access s.volume <;> simp [Except.map]
  · intro engine home hengine hhome hok
    have hengine' : engine = session.engine := Option.some.inj
      (hengine.symm.trans (Roster.engine?_of_session (r := s.roster) hsession))
    rw [← hlatest, ← hengine']
    exact contents_commit hengine hhome hok
  · intro model hmodel
    exact Trial.Model.agrees_applyAll hmodel batch.operations
  · intro actions hactions
    have hcommitted := committed?_one_by_one h hactions
    refine ⟨hcommitted, fun hdone => ⟨?_, fun hne hok => ?_⟩, fun halone hne =>
      commit_eq_ok_iff_one_by_one hsession hactions hne halone sync⟩
    · rw [hcommitted, done_eq_self ?_ hdone]
      rw [length_answers, hactions.length_eq]
    · rw [run_one_by_one hsession hactions hne hdone, write, commit_of_ok hsession hok]
  · refine ⟨?_, fun hok verdicts => write_write hsession batch sync sync' (Or.inr hok)⟩
    have hsame := write_write hsession batch sync sync' (Or.inl (Eq.refl s.verdicts))
    have hverdicts := verdicts_commit s id ⟨batch.operations, sync⟩
    rw [write, ← hverdicts] at hsame
    exact hsame

/-- An engine that refuses values that are longer than a limit, and nothing else. -/
def limited (limit : Nat) : Verdicts where
  refusal
    | .transact _ _ (.apply (.put _ value)) =>
      if value.length ≤ limit then none else some (.valueTooLarge value.length)
    | _ => none
  finding _ := .clean
  plain {question fault} h := by
    split at h
    · split at h
      · simp at h
      · rw [← Option.some.inj h]
        exact ((Plain.append (by decide) (plain_natRepr _)).append (by decide))
    · simp at h

theorem judgesAlone_limited (limit : Nat) : (limited limit).JudgesAlone := by
  intro applied step
  cases step with
  | apply mutation => cases mutation <;> rfl
  | _ => rfl

/-- The theorem on a map with one key: a batch that writes two keys twice, and a batch with a value
that is too long for the engine.  One by one, its other operation is done. -/
theorem write_is_atomic_fold_in_memory :
    (((ofVolume .empty).run [.openMemory {}, .put ⟨0⟩ [1] [2] true]).roster.committed? ⟨0⟩ =
        some (Keyspace.empty.insert [1] [2]) ∧
      ((ofVolume .empty).run [.openMemory {}, .put ⟨0⟩ [1] [2] true]).AtomicWrite ⟨0⟩
        (Keyspace.empty.insert [1] [2])
        ⟨[.put [1] [3], .delete [2], .put [2] [4], .delete [1]]⟩ true) ∧
    ((limited 1).JudgesAlone ∧ ((ofVolume .empty).run
        [.openMemory {}, .put ⟨0⟩ [1] [2] true, .sway (limited 1)]).AtomicWrite ⟨0⟩
        (Keyspace.empty.insert [1] [2]) ⟨[.put [1] [3], .put [2] [4, 4]]⟩ true ∧
      (((ofVolume .empty).run
        [.openMemory {}, .put ⟨0⟩ [1] [2] true, .sway (limited 1)]).write ⟨0⟩
          ⟨[.put [1] [3], .put [2] [4, 4]]⟩ true).2 = .error (.ofFault (.valueTooLarge 2)) ∧
      ((ofVolume .empty).run
        [.openMemory {}, .put ⟨0⟩ [1] [2] true, .sway (limited 1), .put ⟨0⟩ [1] [3] true,
          .put ⟨0⟩ [2] [4, 4] true]).roster.committed? ⟨0⟩ =
        some (Keyspace.empty.insert [1] [3])) :=
  ⟨⟨rfl, (write_is_atomic_fold rfl _ true).1⟩, judgesAlone_limited 1,
    (write_is_atomic_fold rfl _ true).1, rfl, rfl⟩

end Store

end OrderedStore
