import OrderedStore.Batch
import OrderedStore.Status
import OrderedStore.Volume

/-!
# What the storage engine grants

The engine may refuse a call for reasons of its own: the disk is full, a file fails its
check, a value is too large.  `Verdicts` says of every call that can be refused in this
way what it comes to.  Why the engine decides as it does is not known here, so that
whatever holds for all verdicts holds for every engine.
-/

set_option autoImplicit false

namespace OrderedStore

/-- What the engine finds when it checks a file. -/
inductive Finding where
  | clean
  /-- The file was damaged and has been rebuilt around what was left. -/
  | rebuilt (left : Keyspace)
  deriving DecidableEq

namespace Transaction

/-- What a write transaction is for. -/
inductive Purpose where
  /-- To set up the keyspace of a database in memory. -/
  | memory
  /-- To set up the keyspace of a file that had these contents. -/
  | file (found : Contents)
  /-- To write for a caller. -/
  | write
  deriving DecidableEq

/-- A step of a write transaction, which is one call on the engine. -/
inductive Step where
  | start
  | openTable
  | apply (mutation : Mutation)
  | commit
  deriving DecidableEq

end Transaction

/-- What the engine is asked. -/
inductive Question where
  /-- To take up a sound file with these contents; `none` stands for memory. -/
  | adopt (found : Option Contents)
  /-- To check a file that had these contents. -/
  | check (found : Contents)
  /-- To take a step of a transaction in which these mutations have been applied. -/
  | transact (purpose : Transaction.Purpose) (applied : List Mutation)
      (step : Transaction.Step)
  deriving DecidableEq

/-- What the engine's calls come to. -/
structure Verdicts where
  /-- Why a call is refused, if it is. -/
  refusal : Question → Option Fault
  /-- What a check finds of a file that had these contents. -/
  finding : Contents → Finding
  /-- The engine says what it says without NULs. -/
  plain : ∀ {question : Question} {fault : Fault}, refusal question = some fault →
    '\x00' ∉ fault.text.toList

namespace Verdicts

/-- The engine refuses nothing and finds every file clean. -/
def granting : Verdicts where
  refusal _ := none
  finding _ := .clean
  plain h := by simp at h

instance : Inhabited Verdicts := ⟨granting⟩

end Verdicts

end OrderedStore
