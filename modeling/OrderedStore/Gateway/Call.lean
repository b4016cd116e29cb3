import OrderedStore.Gateway.Failure
import OrderedStore.Log.Event
import OrderedStore.Options
import OrderedStore.Cursor

/-!
# Calls of the gateway

A `Call` is one request of the host with its arguments as the host passes them: tokens,
byte ranges that may be null, paths that may be null or not be text, and output
places that may be missing.  A `Reply` says what the call did to its output place,
and whether it failed.
-/

set_option autoImplicit false

namespace OrderedStore

/-- A range of bytes in the host's memory. -/
inductive Slice where
  /-- No address, with a length. -/
  | null (length : Nat)
  | bytes (contents : Bytes)
  deriving DecidableEq, Repr

namespace Slice

/-- The bytes of a range; a range without address is empty or an error. -/
def read (argument : Argument) : Slice → Except Failure Bytes
  | .null 0 => .ok []
  | .null _ => .error (.nullBytes argument)
  | .bytes contents => .ok contents

end Slice

/-- A path as the host passes it: no address, or bytes up to a NUL. -/
abbrev PathArgument := Option Bytes

/-- A byte string for the host, or the absent one.  An absent byte string has no address;
an empty one has. -/
abbrev Buffer := Option Bytes

/-- The length that a buffer states. -/
def Buffer.length (buffer : Buffer) : Nat := (buffer.map List.length).getD 0

/-- The size of the memory behind a buffer, which is never larger than needed. -/
def Buffer.capacity (buffer : Buffer) : Nat := buffer.length

/-- What goes into an output place. -/
inductive Output where
  /-- The place was not written to. -/
  | untouched
  | token (t : Token)
  | buffer (value : Buffer)
  | flag (value : Bool)
  | count (n : Nat)
  deriving DecidableEq, Repr

/-- Writes a buffer into a place; without a place it is released again. -/
def Buffer.write (buffer : Buffer) (place : Bool) : Except Failure Output :=
  if place then .ok (.buffer buffer) else .error .noBuffer

/-- What a call does to its output place, and whether it failed. -/
structure Reply where
  output : Output
  failure : Option Failure
  deriving DecidableEq, Repr

/-- The code that a reply returns. -/
def Reply.code (reply : Reply) : ResultCode :=
  match reply.failure with
  | some failure => failure.code
  | none => .ok

/-- The requests of hosts.  Calls with an output say whether there is a place for it;
`sync` and `fillCache` are wishes about speed and safety that change no answer. -/
inductive Call where
  | openPath (path : PathArgument) (options : Option Options) (place : Bool)
  | openMemory (options : Option Options) (place : Bool)
  | close (database : Token)
  | put (database : Token) (sync : Bool) (key value : Slice)
  | delete (database : Token) (sync : Bool) (key : Slice)
  | write (database : Token) (sync : Bool) (batch : Token)
  | get (database snapshot : Token) (key : Slice) (place : Bool)
  | property (database : Token) (name : Slice) (place : Bool)
  | destroy (path : PathArgument)
  | repair (path : PathArgument)
  | iterate (database : Token) (fillCache : Bool) (snapshot : Token) (place : Bool)
  | seek (iterator : Token) (key : Slice)
  | first (iterator : Token)
  | last (iterator : Token)
  | next (iterator : Token)
  | prev (iterator : Token)
  | isValid (iterator : Token) (place : Bool)
  | key (iterator : Token) (place : Bool)
  | value (iterator : Token) (place : Bool)
  | status (iterator : Token)
  | freeIterator (iterator : Token)
  | snapshot (database : Token) (place : Bool)
  | releaseSnapshot (database snapshot : Token)
  | createBatch (place : Bool)
  | batchPut (batch : Token) (key value : Slice)
  | batchDelete (batch : Token) (key : Slice)
  | clearBatch (batch : Token)
  | countBatch (batch : Token) (place : Bool)
  | freeBatch (batch : Token)
  /-- Sends log lines up to a level to the host, if it says where to. -/
  | installCallback (level : Level) (callback : Bool)
  deriving DecidableEq, Repr

end OrderedStore
