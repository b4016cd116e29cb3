import OrderedStore.Store.Iteration
import OrderedStore.Text.Utf8

/-!
# What a session tells about itself

Properties are texts under fixed names.  A name that is not among them, and a
property that cannot be computed, give no text; the failure is reported.
-/

set_option autoImplicit false

namespace OrderedStore

/-- The properties of a session. -/
inductive Property where
  /-- The number of keys. -/
  | numEntries
  /-- The size of the engine file. -/
  | approximateSize
  /-- The options that the database was opened with. -/
  | options
  /-- A summary. -/
  | stats
  deriving DecidableEq, Repr

namespace Property

/-- All properties, in the order in which they are listed. -/
def all : List Property := [.numEntries, .approximateSize, .options, .stats]

/-- The name of a property. -/
def name : Property → String
  | .numEntries => "kvbridge.num-entries"
  | .approximateSize => "kvbridge.approximate-size"
  | .options => "kvbridge.options"
  | .stats => "kvbridge.stats"

/-- The property of a name. -/
def ofName? (name : Bytes) : Option Property :=
  (Utf8.text? name).bind fun text => all.find? fun property => property.name = text

end Property

namespace Session

/-- The summary of a session, line by line. -/
def stats (session : Session) (entries size : Nat) : String :=
  "path: " ++ session.engine.path?.getD "(memory)" ++ "\n"
    ++ s!"entries: {entries}\nsize: {size}\n"
    ++ s!"snapshots: {session.liveSnapshots}\niterators: {session.liveIterators}\n"

end Session

namespace Store

/-- Computes a property of a session. -/
def compute (s : Store) (id : SessionId) (session : Session) :
    Property → Store × Except Error String
  | .numEntries =>
    let (s, view) := s.latest id
    (s, view.map fun view => toString view.size)
  | .approximateSize => (s, (session.engine.size s.volume).map toString)
  | .options => (s, .ok session.options.describe)
  | .stats =>
    let (s, view) := s.latest id
    (s, view.bind fun view =>
      (session.engine.size s.volume).map fun size => session.stats view.size size)

/-- The text of a property by its name. -/
def property (s : Store) (id : SessionId) (name : Bytes) : Store × Option String :=
  match s.sessions.get? id, Property.ofName? name with
  | some session, some property =>
    match s.compute id session property with
    | (s, .ok text) => (s, some text)
    | (s, .error e) =>
      (s.say session.logger (.propertyUnavailable (Utf8.lossyText name) e), none)
  | _, _ => (s, none)

/-- The path of a session's database. -/
def path? (s : Store) (id : SessionId) : Option String :=
  (s.sessions.get? id).bind fun session => session.engine.path?

/-- The options of a session. -/
def options? (s : Store) (id : SessionId) : Option Options :=
  (s.sessions.get? id).map Session.options

/-! ## Short descriptions -/

/-- A constructor with one field shown and others left out. -/
def sketch (constructor field value : String) : String :=
  constructor ++ " \x7b " ++ field ++ ": " ++ value ++ ", .. \x7d"

/-- A session in short. -/
def sketchSession (session : Session) : String :=
  sketch "Database" "name" (Text.quote session.logger.name)

/-- A snapshot in short. -/
def sketchSnapshot (s : Store) (snapshot : SnapshotId) : String :=
  sketch "Snapshot" "released" (toString (s.isReleased snapshot))

/-- An iterator in short. -/
def sketchIterator (s : Store) (iterator : IteratorId) : String :=
  sketch "DbIterator" "state" (s.cursor iterator).literal

end Store

end OrderedStore
