import OrderedStore.Error
import OrderedStore.Table
import OrderedStore.Text.Disarmed

/-!
# Diagnostic events

Each thing the store reports about itself is a `Notice`: a message, and fields with
values of their own.  An `Event` adds whose session it concerns and, for what a
session's own logger says, the span that names the database.  `Event.record` is the
event as a filter sees it, and `Record.text` the text that a host gets, in which the
message, but not what comes from the span and the fields, is disarmed.
-/

set_option autoImplicit false

namespace OrderedStore

/-- Severities, gravest first. -/
inductive Level where
  | error
  | warn
  | info
  | debug
  | trace
  deriving DecidableEq, Repr

namespace Level

/-- The number of a level, from 1 for errors to 5 for everything. -/
def rank : Level → Nat
  | .error => 1
  | .warn => 2
  | .info => 3
  | .debug => 4
  | .trace => 5

/-- The name of a level. -/
def name : Level → String
  | .error => "error"
  | .warn => "warn"
  | .info => "info"
  | .debug => "debug"
  | .trace => "trace"

/-- All levels, gravest first. -/
def all : List Level := [.error, .warn, .info, .debug, .trace]

end Level

/-- What the store reports about itself. -/
inductive Notice where
  | cacheAllocated (capacity : Nat)
  | cacheReleased (capacity : Nat)
  | engineOpened (existing : Bool)
  | databaseOpened
  | closingWithChildren (snapshots iterators : Int)
  | viewsRevoked (count : Nat)
  | closingSession (cache : Nat)
  | engineReleased (memory : Bool)
  | loggerReleased (name : String)
  | databaseDestroyed (path : String)
  | engineConsistent
  /-- A check has rebuilt the engine file of a database that is being opened. -/
  | integrityRepaired
  /-- A repair has rebuilt the engine file. -/
  | engineRebuilt
  | iteratorUnavailable (error : Error)
  | iteratorDegraded (error : Error)
  | propertyUnavailable (name : String) (error : Error)
  | handlesLeftOpen (handle iterators snapshots : Nat)
  | closeDeferred (handle holders : Nat)
  deriving DecidableEq, Repr

namespace Notice

/-- How grave a notice is. -/
def level : Notice → Level
  | .closingWithChildren .. | .integrityRepaired | .engineRebuilt | .iteratorUnavailable _
  | .iteratorDegraded _
  | .handlesLeftOpen .. => .warn
  | .databaseOpened | .databaseDestroyed _ | .engineConsistent => .info
  | .cacheAllocated _ | .cacheReleased _ | .engineOpened _ | .viewsRevoked _
  | .closingSession _ | .engineReleased _ | .loggerReleased _
  | .propertyUnavailable .. | .closeDeferred .. => .debug

/-- The target of everything that a session's logger says. -/
def loggerTarget : String := "kvbridge_core::logger"

/-- The part of the store that a notice comes from. -/
def target : Notice → String
  | .cacheAllocated _ | .cacheReleased _ => "kvbridge_core::cache"
  | .engineReleased _ => "kvbridge_core::engine"
  | .databaseDestroyed _ => "kvbridge_core::database"
  | .handlesLeftOpen .. | .closeDeferred .. => "kvbridge_ffi::database"
  | .engineOpened _ | .databaseOpened | .closingWithChildren .. | .viewsRevoked _
  | .closingSession _ | .loggerReleased _ | .engineConsistent | .integrityRepaired
  | .engineRebuilt | .iteratorUnavailable _ | .iteratorDegraded _
  | .propertyUnavailable .. => loggerTarget

/-- What a notice says. -/
def message : Notice → String
  | .cacheAllocated _ => "block cache allocated"
  | .cacheReleased _ => "block cache released"
  | .engineOpened existing =>
    "engine opened (" ++ (if existing then "existing" else "created") ++ ")"
  | .databaseOpened => "database opened"
  | .closingWithChildren snapshots iterators =>
    s!"closing with {snapshots} snapshot(s) and {iterators} iterator(s) still open"
  | .viewsRevoked count => s!"revoked {count} leased view(s)"
  | .closingSession cache => s!"closing session (cache: {cache})"
  | .engineReleased _ => "engine handle released"
  | .loggerReleased _ => "logger released"
  | .databaseDestroyed _ => "database destroyed"
  | .engineConsistent => "repair: engine file is consistent"
  | .integrityRepaired => "integrity check repaired the engine file"
  | .engineRebuilt => "repair: engine file was rebuilt"
  | .iteratorUnavailable error => "iterator unavailable: " ++ error.text
  | .iteratorDegraded error => "iterator degraded: " ++ error.text
  | .propertyUnavailable name error => "property " ++ name ++ " unavailable: " ++ error.text
  | .handlesLeftOpen .. => "releasing handles left open at close"
  | .closeDeferred .. => "deferred close"

/-- The fields of a notice by their names. -/
def fields : Notice → List (String × String)
  | .cacheAllocated capacity | .cacheReleased capacity => [("capacity", toString capacity)]
  | .engineReleased memory => [("memory", if memory then "true" else "false")]
  | .loggerReleased name => [("db", name)]
  | .databaseDestroyed path => [("path", path)]
  | .handlesLeftOpen handle iterators snapshots =>
    [("handle", toString handle), ("iterators", toString iterators),
      ("snapshots", toString snapshots)]
  | .closeDeferred handle holders => [("handle", toString handle), ("refs", toString holders)]
  | .engineOpened _ | .databaseOpened | .closingWithChildren .. | .viewsRevoked _
  | .closingSession _ | .engineConsistent | .integrityRepaired | .engineRebuilt
  | .iteratorUnavailable _ | .iteratorDegraded _ | .propertyUnavailable .. => []

end Notice

/-- A notice, the session it concerns, and the span it was given in. -/
structure Event where
  origin : Option SessionId
  /-- The database that the surrounding span names. -/
  span : Option String
  notice : Notice
  deriving DecidableEq, Repr

/-- An event by what it shows. -/
structure Record where
  level : Level
  target : String
  /-- The database that the surrounding span names. -/
  span : Option String
  message : String
  fields : List (String × String)
  deriving DecidableEq, Repr

/-- What an event shows. -/
def Event.record (event : Event) : Record where
  level := event.notice.level
  target := event.notice.target
  span := event.span
  message := event.notice.message
  fields := event.notice.fields

namespace Record

/-- The names of the fields; the message counts as one. -/
def fieldNames (record : Record) : List String := "message" :: record.fields.map (·.1)

/-- The name of every span. -/
def spanName : String := "kvbridge"

/-- The field of a span that holds the name of the database. -/
def spanField : String := "db"

/-- What stands in front of the message: the span and the database that it names. -/
def heading (record : Record) : String :=
  match record.span with
  | some database => spanName ++ "\x7b" ++ spanField ++ "=" ++ database ++ "\x7d: "
  | none => ""

/-- The text of a record: span, message and fields. -/
def text (record : Record) : String :=
  record.heading ++ Text.disarm record.message
    ++ String.join (record.fields.map fun (name, value) => " " ++ name ++ "=" ++ value)

end Record

end OrderedStore
