/-!
# What the storage engine reports

A `Fault` is a cause for which the engine refuses or gives up a call, together with
what it says about it.  A `Status` is the result of an engine call in the terms
of the callers: one of five categories and, unless the call succeeded, a
diagnostic.  `Status.ofFault` sorts faults into categories and keeps their text.
-/

set_option autoImplicit false

namespace OrderedStore

/-- Why the engine could not do its work. -/
inductive Fault where
  /-- The file system failed, with this text. -/
  | io (text : String)
  /-- Another handle holds the engine file. -/
  | alreadyOpen
  /-- The stored state failed validation. -/
  | corrupted (text : String)
  | tableMissing (name : String)
  | tableExists (name : String)
  | multimap (name : String)
  | notMultimap (name : String)
  | valueTooLarge (length : Nat)
  /-- The file has an older format. -/
  | upgradeRequired (version : Nat)
  /-- An earlier call failed on the file and the handle is not used any more. -/
  | previousIo
  | repairAborted
  | transactionInProgress
  | invalidSavepoint
  | persistentSavepoint
  | ephemeralSavepoint
  /-- Any other failure, in the engine's own words. -/
  | other (text : String)
  deriving DecidableEq, Repr

/-- The engine's words for a fault. -/
def Fault.text : Fault → String
  | .io text => text
  | .alreadyOpen => "Database already open. Cannot acquire lock."
  | .corrupted text => s!"DB corrupted: {text}"
  | .tableMissing name => s!"Table '{name}' does not exist"
  | .tableExists name => s!"Table '{name}' already exists"
  | .multimap name => s!"{name} is a multimap table"
  | .notMultimap name => s!"{name} is not a multimap table"
  | .valueTooLarge length =>
    s!"The value (length={length}) being inserted exceeds the maximum of 3GiB"
  | .upgradeRequired version =>
    "Manual upgrade required. Expected file format version 2, "
      ++ s!"but file is version {version}"
  | .previousIo => "Previous I/O error occurred. Please close and re-open the database."
  | .repairAborted => "Database repair aborted."
  | .transactionInProgress =>
    "A transaction is still in progress. Operation cannot be performed."
  | .invalidSavepoint => "Savepoint is invalid or cannot be created."
  | .persistentSavepoint => "Persistent savepoint exists. Operation cannot be performed."
  | .ephemeralSavepoint => "Ephemeral savepoint exists. Operation cannot be performed."
  | .other text => text

/-- The categories of engine results. -/
inductive StatusCode where
  | ok
  | notFound
  | ioError
  | corruption
  | other
  deriving DecidableEq, Repr

/-- The result of an engine call. -/
structure Status where
  code : StatusCode
  message : Option String
  deriving DecidableEq, Repr

namespace Status

/-- The call succeeded. -/
def ok : Status := ⟨.ok, none⟩

/-- Something asked for does not exist. -/
def notFound (message : String) : Status := ⟨.notFound, some message⟩

/-- The file system or the lock layer failed. -/
def ioError (message : String) : Status := ⟨.ioError, some message⟩

/-- The stored state failed validation. -/
def corruption (message : String) : Status := ⟨.corruption, some message⟩

/-- Any other failure. -/
def other (message : String) : Status := ⟨.other, some message⟩

/-- The diagnostic, or nothing for want of one. -/
def diagnostic (status : Status) : String := status.message.getD ""

/-- The status of a fault.  File failures, held files, failed validation and missing
tables have categories; every other fault keeps the engine's words. -/
def ofFault : Fault → Status
  | .io text => ioError text
  | .alreadyOpen => ioError "database file is already open by another handle"
  | .corrupted text => corruption text
  | .tableMissing name => notFound s!"table {name} does not exist"
  | fault => other fault.text

/-- The status in words: its category, then its diagnostic. -/
def text (status : Status) : String :=
  match status.code with
  | .ok => "OK"
  | .notFound => "NotFound: " ++ status.diagnostic
  | .ioError => "IO error: " ++ status.diagnostic
  | .corruption => "Corruption: " ++ status.diagnostic
  | .other => status.diagnostic

end Status

end OrderedStore
