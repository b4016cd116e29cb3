import OrderedStore.Error
import OrderedStore.Keyspace

/-!
# Cursors

A cursor is a place in a view: before any positioning, on an entry, off either end,
or degraded by a failed read, whose error it keeps.  It remembers the entry it is on
and no index, so each step asks the view for the nearest key after or before.

The view is reached through a `Reader`, which may fail at any question.  A cursor whose
session has been closed has no reader at all.
-/

set_option autoImplicit false

namespace OrderedStore

/-- What can be asked of a view, with the chance of failure. -/
abbrev Reader := Keyspace.Query → Except Error (Option Entry)

/-- The ways to move a cursor. -/
inductive Move where
  | first
  | last
  | seek (key : Bytes)
  | next
  | prev
  deriving DecidableEq, Repr

/-- A place in a view. -/
inductive Cursor where
  /-- Not positioned yet. -/
  | unpositioned
  | valid (entry : Entry)
  /-- Ran off either end. -/
  | exhausted
  /-- The last positioning failed. -/
  | degraded (error : Error)
  deriving DecidableEq, Repr

namespace Cursor

/-- The question that a move asks.  A step from anywhere but an entry asks none. -/
def query? (cursor : Cursor) : Move → Option Keyspace.Query
  | .first => some .first
  | .last => some .last
  | .seek key => some (.seek key)
  | .next => match cursor with
    | .valid entry => some (.after entry.1)
    | _ => none
  | .prev => match cursor with
    | .valid entry => some (.before entry.1)
    | _ => none

/-- Where an answer puts the cursor. -/
def land : Except Error (Option Entry) → Cursor
  | .ok (some entry) => .valid entry
  | .ok none => .exhausted
  | .error e => .degraded e

/-- Moves a cursor.  A move that asks nothing changes nothing and succeeds; any other
fails if the session is closed, and otherwise goes where the answer says. -/
def move (reader : Option Reader) (m : Move) (cursor : Cursor) : Cursor × Except Error Unit :=
  match cursor.query? m with
  | none => (cursor, .ok ())
  | some query =>
    match reader with
    | none => (.exhausted, .error (.closed .database))
    | some read =>
      let answer := read query
      (land answer, answer.map fun _ => ())

/-- The entry the cursor is on; none is left once the session is closed. -/
def entry? (live : Bool) : Cursor → Option Entry
  | .valid entry => if live then some entry else none
  | _ => none

/-- The outcome of the last positioning. -/
def status (live : Bool) (cursor : Cursor) : Except Error Unit :=
  if live then
    match cursor with
    | .degraded e => .error e
    | _ => .ok ()
  else .error (.closed .database)

/-- The state of a cursor as a constructor. -/
def literal : Cursor → String
  | .unpositioned => "Unpositioned"
  | .valid _ => "Valid"
  | .exhausted => "Exhausted"
  | .degraded e => "Degraded(" ++ e.literal ++ ")"

end Cursor

end OrderedStore
