import OrderedStore.Error
import OrderedStore.Handle.Token

/-!
# Result codes of the gateway

Every call through the gateway comes to a result code, which is a number to the host.
A call that fails has a cause, and the cause decides both the code and the words
that the host can ask for afterwards.
-/

set_option autoImplicit false

namespace OrderedStore

/-- The codes that calls return. -/
inductive ResultCode where
  | ok
  /-- Any failure of the engine without a code of its own. -/
  | error
  | invalidArgument
  | notFound
  | corruption
  | ioError
  | nullPointer
  | invalidHandle
  | closed
  | ownershipMismatch
  deriving DecidableEq, Repr

namespace ResultCode

/-- The number of a code. -/
def number : ResultCode → Nat
  | .ok => 0
  | .error => 1
  | .invalidArgument => 2
  | .notFound => 3
  | .corruption => 4
  | .ioError => 5
  | .nullPointer => 6
  | .invalidHandle => 7
  | .closed => 8
  | .ownershipMismatch => 9

/-- All codes, by their numbers. -/
def all : List ResultCode :=
  [.ok, .error, .invalidArgument, .notFound, .corruption, .ioError, .nullPointer,
    .invalidHandle, .closed, .ownershipMismatch]

/-- The code of a number; a number without a code is taken for an error. -/
def ofInt (n : Int) : ResultCode :=
  (all.find? fun code => (code.number : Int) = n).getD .error

/-- Does the code report success? -/
def isOk (code : ResultCode) : Bool := code = .ok

/-- The code of an error of the store. -/
def ofError : Error → ResultCode
  | .io _ => .ioError
  | .corruption _ => .corruption
  | .notFound _ => .notFound
  | .generic _ => .error
  | .closed _ => .closed
  | .snapshotOwnership => .ownershipMismatch
  | .invalidArgument _ => .invalidArgument

/-- The code of a handle that could not be used. -/
def ofHandleFault : HandleFault → ResultCode
  | .null _ => .nullPointer
  | .wrongKind _ | .stale _ => .invalidHandle
  | .exhausted _ => .error

end ResultCode

/-- The byte arguments of calls. -/
inductive Argument where
  | key
  | value
  /-- The name of a property. -/
  | name
  deriving DecidableEq, Repr

/-- The word for an argument in messages. -/
def Argument.word : Argument → String
  | .key => "key"
  | .value => "value"
  | .name => "name"

/-- Why a call failed. -/
inductive Failure where
  /-- There is nowhere to put the output. -/
  | noOutput
  /-- There is nowhere to put a byte string that has been made already. -/
  | noBuffer
  | nullPath
  | malformedPath
  /-- Bytes are announced where there is nothing. -/
  | nullBytes (argument : Argument)
  | handle (fault : HandleFault)
  /-- The snapshot was taken through another handle. -/
  | foreignSnapshot
  | store (error : Error)
  /-- There is no one to hand log lines to. -/
  | nullCallback
  /-- Somebody receives log lines already. -/
  | callbackInstalled
  deriving DecidableEq, Repr

namespace Failure

/-- The code of a failure. -/
def code : Failure → ResultCode
  | .noOutput | .noBuffer | .nullPath | .nullCallback => .nullPointer
  | .malformedPath | .nullBytes _ => .invalidArgument
  | .handle fault => .ofHandleFault fault
  | .foreignSnapshot => .ownershipMismatch
  | .store error => .ofError error
  | .callbackInstalled => .error

/-- The failure in words. -/
def text : Failure → String
  | .noOutput => "null pointer argument"
  | .noBuffer => "null output buffer"
  | .nullPath => "null path"
  | .malformedPath => "invalid UTF-8 in path"
  | .nullBytes argument => "null " ++ argument.word ++ " pointer with non-zero length"
  | .handle fault => fault.text
  | .foreignSnapshot => Error.snapshotOwnership.text
  | .store error => error.text
  | .nullCallback => "null log callback"
  | .callbackInstalled =>
    "log callback already installed: a global default trace dispatcher has already been set"

end Failure

/-- A text without NUL characters, as hosts receive it. -/
def withoutNul (text : String) : String :=
  String.ofList (text.toList.filter (· ≠ '\x00'))

end OrderedStore
