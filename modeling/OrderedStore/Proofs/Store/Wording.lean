import OrderedStore.Proofs.Store.Operation
import OrderedStore.Proofs.Text.Plain

/-!
# The words of errors

The errors of opening, destroying and repairing a database say where it is, what the file system
has answered or what the engine has found in its file.  If the path is plain then so are they,
and a host reads the words of such an error to the end.
-/

set_option autoImplicit false

namespace OrderedStore

/-- Whatever the error is, its words are plain. -/
def PlainError {α : Type} (outcome : Except Error α) : Prop :=
  ∀ e, outcome = .error e → Plain e.text

theorem plainError_ok {α : Type} (a : α) : PlainError (.ok a : Except Error α) := by
  intro e h
  simp at h

theorem plainError_error {α : Type} {e : Error} (h : Plain e.text) :
    PlainError (.error e : Except Error α) := by
  intro e' he
  rw [← Except.error.inj he]
  exact h

theorem Error.plain_io {message : String} (h : Plain message) : Plain (io message).text :=
  Plain.append (by decide) h

theorem FileError.plain_text (e : FileError) : Plain e.text := by
  cases e <;> decide

/-! ## Faults -/

/-- What the engine says without NULs is passed on without NULs. -/
theorem Fault.plain_ofFault {fault : Fault} (h : Plain fault.text) :
    Plain (Error.ofFault fault).text := by
  cases fault with
  | io text => exact Error.plain_io h
  | alreadyOpen => decide
  | corrupted text => exact Plain.append (by decide) (Plain.of_append h).2
  | tableMissing name =>
    have hname := (Plain.of_append (Plain.of_append h).1).2
    exact Plain.append (by decide) (Plain.append (Plain.append (by decide) hname) (by decide))
  | _ => exact h

theorem Verdicts.Says.plain {verdicts : Verdicts} {e : Error} (h : verdicts.Says e) :
    Plain e.text := by
  obtain ⟨_, fault, hrefusal, rfl⟩ := h
  exact Fault.plain_ofFault (verdicts.plain hrefusal)

namespace Image

theorem plain_checkVersion {version : Nat} {fault : Fault}
    (h : checkVersion version = .error fault) : Plain fault.text := by
  unfold checkVersion at h
  split at h
  · obtain rfl := Except.error.inj h
    exact Plain.append (by decide) (Plain.append (by decide) (plain_natRepr version))
  · split at h
    · simp at h
    · obtain rfl := Except.error.inj h
      exact Plain.append (by decide) (Plain.append (by decide) (plain_natRepr version))

theorem plain_checkSlots {bytes : Bytes} {offsets : List Nat} {fault : Fault}
    (h : checkSlots bytes offsets = .error fault) : Plain fault.text := by
  induction offsets with
  | nil => simp [checkSlots] at h
  | cons offset rest ih =>
    simp only [checkSlots] at h
    split at h
    · rename_i fault' hversion
      obtain rfl := Except.error.inj h
      exact plain_checkVersion hversion
    · exact ih h

theorem plain_judge {create : Bool} {bytes : Bytes} {fault : Fault}
    (h : judge create bytes = .error fault) : Plain fault.text := by
  have hwords : ∀ {text : String} {fault : Fault}, Plain text →
      (.error (.io text) : Except Fault Keyspace) = .error fault → Plain fault.text := by
    intro text fault htext heq
    rw [← Except.error.inj heq]
    exact htext
  unfold judge at h
  split at h
  · split at h
    · simp at h
    · exact hwords (by decide) h
  · split at h
    · exact hwords (by decide) h
    · split at h
      · exact hwords (by decide) h
      · split at h
        · rename_i fault' hslots
          rw [← Except.error.inj h]
          exact plain_checkSlots hslots
        · split at h
          · simp at h
          · rw [← Except.error.inj h]
            decide

end Image

/-! ## Directories -/

namespace Directory

variable {v : Volume} {path : String}

theorem plain_failure (e : FileError) : Plain (failure e).text := Error.plain_io e.plain_text

theorem plain_join {name : String} (hpath : Plain path) (hname : Plain name) :
    Plain (join path name) := by
  unfold join
  split
  · exact hpath.append hname
  · exact (hpath.append (by decide)).append hname

theorem plainError_acquire (h : Plain path) : PlainError (acquire v path).2 := by
  unfold acquire
  split
  · exact plainError_error (plain_failure _)
  · split
    · have hlock : Plain (lockPath path) := plain_join h (by decide)
      have hwords : Plain s!"lock {lockPath path}: already held by process" :=
        (Plain.append (by decide) hlock).append (by decide +kernel)
      exact plainError_error (Error.plain_io hwords)
    · exact plainError_ok _

theorem plainError_enter (h : Plain path) : PlainError (enter v path).2 := by
  unfold enter
  split
  · intro e he
    cases hacquire : (acquire v path).2 with
    | ok lock => simp [hacquire, Except.map] at he
    | error e' =>
      have heq : e' = e := by simpa [hacquire, Except.map] using he
      exact heq ▸ plainError_acquire h e' hacquire
  · exact plainError_error (Error.plain_io (h.append (by decide)))

theorem plainError_openAt (h : Plain path) (create : Bool) :
    PlainError (openAt v path create).2 := by
  unfold openAt
  split
  · exact plainError_enter h
  · split
    · split
      · exact plainError_enter h
      · exact plainError_error (plain_failure _)
    · exact plainError_error (Error.plain_io (h.append (by decide)))

/-- A directory that has been opened keeps the path as it was written. -/
theorem text_of_enter {v' : Volume} {directory : Directory}
    (h : enter v path = (v', .ok directory)) : directory.text = path := by
  unfold enter at h
  split at h
  · generalize acquire v path = result at h
    obtain ⟨w, outcome⟩ := result
    cases outcome with
    | ok lock => rw [← Except.ok.inj (Prod.mk.inj h).2]
    | error e => simp [Except.map] at h
  · simp at h

theorem text_of_openAt {v' : Volume} {create : Bool} {directory : Directory}
    (h : openAt v path create = (v', .ok directory)) : directory.text = path := by
  unfold openAt at h
  split at h
  · exact text_of_enter h
  · split at h
    · split at h
      · exact text_of_enter h
      · simp at h
    · simp at h

end Directory

/-- A removal has not ended with words that are not plain. -/
def Removal.Plain : Removal → Prop
  | .finished outcome => PlainError outcome
  | _ => True

theorem Removal.plain_step {v : Volume} {path : String} (h : OrderedStore.Plain path)
    {removal : Removal} (hplain : removal.Plain) : (step path v removal).2.Plain := by
  cases removal with
  | begun =>
    have hacquire := Directory.plainError_acquire (v := v) h
    simp only [step]
    split
    · split
      · trivial
      · rename_i heq
        rw [heq] at hacquire
        exact plainError_error (hacquire _ rfl)
    · exact plainError_ok _
  | locked lock =>
    simp only [step]
    split
    · split
      · trivial
      · exact plainError_error (Directory.plain_failure _)
    · trivial
  | emptied lock => trivial
  | unlocked =>
    simp only [step]
    split
    · trivial
    · exact plainError_error (Directory.plain_failure _)
  | cleared => exact plainError_ok _
  | finished outcome => exact hplain

theorem Removal.plain_steps {path : String} (h : OrderedStore.Plain path) (n : Nat) {v : Volume}
    {removal : Removal} (hplain : removal.Plain) : (steps path n v removal).2.Plain := by
  induction n generalizing v removal with
  | zero => exact hplain
  | succ n ih => exact ih (plain_step h hplain)

theorem Directory.plainError_destroy {v : Volume} {path : String} (h : Plain path) :
    PlainError (destroy v path).2 := by
  have hplain : (Removal.steps path Removal.length v .begun).2.Plain :=
    Removal.plain_steps h _ trivial
  show PlainError (Removal.steps path Removal.length v .begun).2.outcome
  cases hremoval : (Removal.steps path Removal.length v .begun).2 with
  | finished outcome =>
    rw [hremoval] at hplain
    exact hplain
  | _ => exact plainError_ok _

/-! ## Engines -/

namespace Engine

variable {v : Volume} {directory : Directory} {verdicts : Verdicts}

theorem plainError_openData (create : Bool) :
    PlainError (openData v directory create verdicts).2 := by
  unfold openData
  split
  · rename_i e _
    exact plainError_error (Fault.plain_ofFault e.plain_text)
  · split
    · exact plainError_error (by decide)
    · split
      · rename_i fault hjudge
        refine plainError_error (Fault.plain_ofFault ?_)
        unfold judge at hjudge
        split at hjudge
        · simp at hjudge
        · exact Image.plain_judge hjudge
      · split
        · rename_i hrefusal
          exact plainError_error (Verdicts.says_of_refusal hrefusal).plain
        · exact plainError_ok _

theorem plainError_openChecked (create checks : Bool) :
    PlainError (openChecked v directory create checks verdicts).2.2 := by
  intro e he
  rcases openChecked_error (Prod.ext rfl (Prod.ext rfl he)) with hdata | hsays
  · exact plainError_openData create e (congrArg Prod.snd hdata)
  · exact hsays.plain

theorem plainError_openIn (h : Plain directory.text) (options : Options) :
    PlainError (openIn v directory options verdicts).2.2 := by
  unfold openIn
  split
  · exact plainError_error (Plain.append h (by decide))
  · exact plainError_openChecked _ _

theorem plainError_openInMemory : PlainError (openInMemory verdicts) := by
  rcases openInMemory_cases verdicts with heq | ⟨e, hsays, heq⟩
  · rw [heq]
    exact plainError_ok _
  · rw [heq]
    exact plainError_error hsays.plain

theorem plainError_access (engine : Engine) : PlainError (engine.access v) := by
  unfold access
  split
  · exact plainError_error (by decide)
  · split
    · exact plainError_ok ()
    · exact plainError_error (by decide)

theorem plainError_commit (engine : Engine) (mutations : List Mutation) :
    PlainError (engine.commit v mutations verdicts).2.2 := by
  intro e he
  rcases commit_error he with haccess | hsays
  · exact plainError_access engine e haccess
  · exact hsays.plain

end Engine

/-! ## Operations of the store -/

namespace Store

variable {s : Store} {path : String}

theorem plainError_openAt (h : Plain path) (options : Options) :
    PlainError (s.openAt path options).2 := by
  unfold openAt
  simp only
  split
  · rename_i v e heq
    have hopen := Directory.plainError_openAt
      (v := (s.allocateCache (s.logger path) options).volume) h options.createIfMissing
    rw [heq] at hopen
    exact plainError_error (hopen _ rfl)
  · rename_i v directory heq
    have hengine : PlainError (Engine.openIn v directory options
        (s.allocateCache (s.logger path) options).verdicts).2.2 :=
      Engine.plainError_openIn (Directory.text_of_openAt heq ▸ h) options
    split
    · rename_i heq'
      rw [heq'] at hengine
      exact plainError_error (hengine _ rfl)
    · exact plainError_ok _

theorem plainError_openInMemory (options : Options) :
    PlainError (s.openInMemory options).2 := by
  have hengine : PlainError (Engine.openInMemory
      (s.allocateCache (s.logger memoryName) options).verdicts) := Engine.plainError_openInMemory
  unfold openInMemory
  simp only
  split
  · rename_i heq
    rw [heq] at hengine
    exact plainError_error (hengine _ rfl)
  · exact plainError_ok _

theorem plainError_commit (id : SessionId) (write : Write) :
    PlainError (s.commit id write).2 := by
  cases hsession : s.sessions.get? id with
  | none =>
    rw [commit_of_closed hsession]
    exact plainError_error (by decide)
  | some session =>
    rw [(commit_of_open hsession write).2.2]
    exact Engine.plainError_commit _ _

theorem plainError_destroy (h : Plain path) : PlainError (s.destroy path).2 := by
  have hdestroy := Directory.plainError_destroy (v := s.volume) h
  unfold destroy
  split
  · rename_i heq
    rw [heq] at hdestroy
    exact hdestroy
  · exact plainError_ok _

theorem plainError_repair (h : Plain path) : PlainError (s.repair path).2 := by
  have hopen := Directory.plainError_openAt (v := s.volume) h false
  unfold repair
  simp only
  split
  · rename_i heq
    rw [heq] at hopen
    exact plainError_error (hopen _ rfl)
  · rename_i v directory heq
    have hengine : PlainError (Engine.openChecked v directory false true s.verdicts).2.2 :=
      Engine.plainError_openChecked false true
    split
    · rename_i heq'
      rw [heq'] at hengine
      exact plainError_error (hengine _ rfl)
    · exact plainError_ok _

end Store

end OrderedStore
