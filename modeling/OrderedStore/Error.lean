import OrderedStore.Status
import OrderedStore.Text.Quoted

/-!
# Errors

An error is either an engine status that a caller has to hear of, with its
diagnostic word for word, or a misuse of the store.  A missing key on a read is
neither: `Status.absentOnNotFound` turns it into an absent value.
-/

set_option autoImplicit false

namespace OrderedStore

/-- The categories of errors. -/
inductive ErrorKind where
  | io
  | corruption
  | notFound
  | generic
  /-- The caller's own mistake. -/
  | programming
  deriving DecidableEq, Repr

/-- What can be closed under its user. -/
inductive Resource where
  | database
  | iterator
  deriving DecidableEq, Repr

/-- The name of a resource in messages. -/
def Resource.name : Resource → String
  | .database => "database"
  | .iterator => "iterator"

/-- Why an operation failed. -/
inductive Error where
  | io (message : String)
  | corruption (message : String)
  | notFound (message : String)
  | generic (message : String)
  /-- The session, or something derived from it, has been closed. -/
  | closed (resource : Resource)
  /-- The snapshot belongs to another session. -/
  | snapshotOwnership
  | invalidArgument (message : String)
  deriving DecidableEq, Repr

namespace Error

/-- The category of an error. -/
def kind : Error → ErrorKind
  | .io _ => .io
  | .corruption _ => .corruption
  | .notFound _ => .notFound
  | .generic _ => .generic
  | .closed _ | .snapshotOwnership | .invalidArgument _ => .programming

/-- The error in words. -/
def text : Error → String
  | .io message => "IO error: " ++ message
  | .corruption message => "Corruption: " ++ message
  | .notFound message => "NotFound: " ++ message
  | .generic message => message
  | .closed resource => resource.name ++ " has been closed"
  | .snapshotOwnership => "snapshot is not owned by this database"
  | .invalidArgument message => "invalid argument: " ++ message

/-- The diagnostic alone, where there is one, and the words of the error otherwise. -/
def message : Error → String
  | .io message | .corruption message | .notFound message | .generic message
  | .invalidArgument message => message
  | error => error.text

/-- A constructor with one named text. -/
def literalOf (constructor field value : String) : String :=
  constructor ++ " \x7b " ++ field ++ ": " ++ Text.quote value ++ " \x7d"

/-- The error as a constructor with its fields. -/
def literal : Error → String
  | .io message => literalOf "Io" "message" message
  | .corruption message => literalOf "Corruption" "message" message
  | .notFound message => literalOf "NotFound" "message" message
  | .generic message => literalOf "Generic" "message" message
  | .closed resource => literalOf "Closed" "resource" resource.name
  | .snapshotOwnership => "SnapshotOwnership"
  | .invalidArgument message => literalOf "InvalidArgument" "message" message

/-- The error of an engine status; success has none. -/
def ofStatus? (status : Status) : Option Error :=
  match status.code with
  | .ok => none
  | .notFound => some (.notFound status.diagnostic)
  | .ioError => some (.io status.diagnostic)
  | .corruption => some (.corruption status.diagnostic)
  | .other => some (.generic status.diagnostic)

/-- The error of an engine fault. -/
def ofFault (fault : Fault) : Error :=
  let status := Status.ofFault fault
  (ofStatus? status).getD (.generic status.diagnostic)

end Error

namespace Status

/-- Raises the error of a status. -/
def toExcept (status : Status) : Except Error Unit :=
  match Error.ofStatus? status with
  | some error => .error error
  | none => .ok ()

/-- A status on a read path: what is not found is an absent value. -/
def absentOnNotFound {α : Type} (status : Status) : Except Error (Option α) :=
  if status.code = .notFound then .ok none else status.toExcept.map fun _ => none

end Status

end OrderedStore
