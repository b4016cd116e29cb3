import OrderedStore.Error
import OrderedStore.Text.Base64
import OrderedStore.Text.Escaped
import OrderedStore.Text.Utf8

/-!
# Keys and values on the command line

Keys and values are plain text, or base64 where that is asked for.  Plain output shows
every byte as printable ASCII, and so can be told apart from other output, but a
plain argument stands for its own bytes: only base64 goes both ways.
-/

set_option autoImplicit false

namespace OrderedStore.Cli

/-- Why a command failed. -/
inductive Complaint where
  /-- The command works on a database, and no path is given. -/
  | pathRequired (command : String)
  | database (error : Error)
  | base64 (fault : Text.Base64.Fault)
  /-- The command needs to be confirmed. -/
  | refused (text : String)
  deriving DecidableEq, Repr

namespace Complaint

/-- The complaint in words. -/
def text : Complaint → String
  | .pathRequired command => "database path required for " ++ command
  | .database error => error.text
  | .base64 fault => "invalid base64 argument: " ++ fault.message
  | .refused text => text

/-- The complaint as a constructor with its argument. -/
def literal : Complaint → String
  | .pathRequired command => "PathRequired(" ++ Text.quote command ++ ")"
  | .database error => "Database(" ++ error.literal ++ ")"
  | .base64 fault => "Base64(" ++ fault.literal ++ ")"
  | .refused text => "Refused(" ++ Text.quote text ++ ")"

end Complaint

/-- How keys and values are written. -/
inductive Codec where
  | plain
  | base64
  deriving DecidableEq, Repr

namespace Codec

/-- The codec that a command line asks for. -/
def ofSwitch (base64 : Bool) : Codec := if base64 then .base64 else .plain

/-- The bytes of an argument. -/
def decode : Codec → String → Except Complaint Bytes
  | .plain, text => .ok (utf8 text)
  | .base64, text => (Text.Base64.decode (utf8 text)).mapError .base64

/-- Bytes as they are printed. -/
def render : Codec → Bytes → String
  | .plain, bytes => Text.escape bytes
  | .base64, bytes =>
    String.ofList ((Text.Base64.encode bytes).map fun b => Char.ofNat b.toNat)

end Codec

end OrderedStore.Cli
