import OrderedStore.Cli.Arguments
import OrderedStore.Cli.Codec
import OrderedStore.Store.Property
import OrderedStore.Text.Json

/-!
# Running a command

Each run of the program opens the database, does one thing and closes it again, so
what goes from one run to the next is in the file system alone.  A `Step` is a
computation on a store that may print and may fail; `withDatabase` sees to it that
the session ends also after a failure.
-/

set_option autoImplicit false

namespace OrderedStore.Cli

/-- What is printed. -/
structure Printed where
  /-- Standard output. -/
  output : String
  /-- Standard error, line by line. -/
  notes : List String
  deriving DecidableEq, Repr

namespace Printed

/-- Nothing. -/
def nothing : Printed := ⟨"", []⟩

/-- A text on standard output. -/
def text (text : String) : Printed := ⟨text, []⟩

/-- A line on standard output. -/
def line (text : String) : Printed := .text (text ++ "\n")

/-- A line on standard error. -/
def note (text : String) : Printed := ⟨"", [text]⟩

end Printed

/-- What a command does to a store, and what it prints or complains of. -/
abbrev Step := Store → Store × Except Complaint Printed

/-- An operation of the store as a part of a command. -/
def thenPrint {α : Type} (result : Store × Except Error α) (print : α → Printed) :
    Store × Except Complaint Printed :=
  (result.1, (result.2.mapError .database).map print)

/-- Opens a database, uses it and closes it; after a failure the session is just
dropped. -/
def withDatabase (path : String) (options : Options)
    (use : SessionId → Step) : Step := fun s =>
  match s.openAt path options with
  | (s, .error e) => (s, .error (.database e))
  | (s, .ok id) =>
    match use id s with
    | (s, .error complaint) => (s.discard id, .error complaint)
    | (s, .ok printed) => (s.close id, .ok printed)

/-- The options for databases that must exist. -/
def existing : Options := { createIfMissing := false }

/-! ## Reading and writing -/

/-- Prints the value of a key. -/
def get (path : String) (codec : Codec) (key : String) : Step :=
  withDatabase path existing fun id s =>
    match codec.decode key with
    | .error complaint => (s, .error complaint)
    | .ok key =>
      thenPrint (s.get id none key) fun
        | some value => .line (codec.render value)
        | none => .note "(absent)"

/-- Stores a value; the database is made if there is none. -/
def put (path : String) (codec : Codec) (key value : String) (sync : Bool) : Step :=
  withDatabase path {} fun id s =>
    match codec.decode key, codec.decode value with
    | .error complaint, _ => (s, .error complaint)
    | _, .error complaint => (s, .error complaint)
    | .ok key, .ok value => thenPrint (s.put id key value sync) fun _ => .nothing

/-- Removes a key. -/
def delete (path : String) (codec : Codec) (key : String) (sync : Bool) : Step :=
  withDatabase path existing fun id s =>
    match codec.decode key with
    | .error complaint => (s, .error complaint)
    | .ok key => thenPrint (s.delete id key sync) fun _ => .nothing

/-! ## Scanning -/

/-- The entries of a range, read by an iterator that is there for this only. -/
def collect (id : SessionId) (range : Range) (s : Store) :
    Store × Except Error (List Entry) :=
  match s.iterate id none with
  | (s, .error e) => (s, .error e)
  | (s, .ok iterator) =>
    let (s, entries) := s.select iterator range
    (s.dropIterator iterator, entries)

/-- Entries as they are printed. -/
def printEntries (codec : Codec) (entries : List Entry) : Format → Printed
  | .text =>
    .text (String.join (entries.map fun (key, value) =>
        codec.render key ++ " => " ++ codec.render value ++ "\n")
      ++ s!"({entries.length} entries)\n")
  | .json =>
    .line (Text.Json.list (entries.map fun (key, value) =>
      .record [("key", .text (codec.render key)), ("value", .text (codec.render value))])).pretty

/-- Prints the entries of a range. -/
def scan (path : String) (codec : Codec) (range : Range) (format : Format) : Step :=
  withDatabase path existing fun id s =>
    thenPrint (collect id range s) fun entries => printEntries codec entries format

/-! ## Looking at a database -/

/-- Prints a property, or the names of all if there is none of this name. -/
def property (path name : String) : Step :=
  withDatabase path existing fun id s =>
    match s.property id (utf8 name) with
    | (s, some text) => (s, .ok (.text text))
    | (s, none) =>
      (s, .ok (.note ("unknown property " ++ name ++ "; known: "
        ++ ", ".intercalate (Property.all.map Property.name))))

/-- What an inspection finds. -/
structure Findings where
  path : String
  entries : Nat
  size : Nat
  options : List (String × String)
  deriving DecidableEq, Repr

namespace Findings

/-- The width of the names of options in print. -/
def nameWidth : Nat := 18

/-- A name with blanks behind it up to a width. -/
def pad (width : Nat) (name : String) : String :=
  name ++ String.ofList (List.replicate (width - name.length) ' ')

/-- Findings as they are printed. -/
def print (findings : Findings) : Format → Printed
  | .text =>
    .text ("Database: " ++ findings.path ++ "\n"
      ++ s!"Entries:  {findings.entries}\n"
      ++ s!"Size:     {findings.size} bytes\n"
      ++ "Options:\n"
      ++ String.join (findings.options.map fun (name, value) =>
        "  " ++ pad nameWidth name ++ " " ++ value ++ "\n"))
  | .json =>
    .line (Text.Json.record [
      ("path", .text findings.path),
      ("entries", .number findings.entries),
      ("size_bytes", .number findings.size),
      ("options", .list (findings.options.map fun (name, value) =>
        .list [.text name, .text value]))]).pretty

end Findings

/-- What there is to find out about an open database.  What cannot be read counts for
nothing. -/
def examine (path : String) (id : SessionId) (s : Store) : Store × Findings :=
  let (s, view) := s.latest id
  let session := s.sessions.get? id
  let size := (session.bind fun session => (session.engine.size s.volume).toOption).getD 0
  let options := (session.map fun session => session.options.fields).getD []
  (s, ⟨path, (view.map Keyspace.size).toOption.getD 0, size, options⟩)

/-- Prints what there is to find out about a database. -/
def inspect (path : String) (format : Format) : Step :=
  withDatabase path existing fun id s =>
    let (s, findings) := examine path id s
    (s, .ok (findings.print format))

/-! ## Maintenance -/

/-- Removes a database, if this is confirmed. -/
def destroy (path : String) (yes : Bool) : Step := fun s =>
  if yes then thenPrint (s.destroy path) fun _ => .line ("Destroyed " ++ path)
  else (s, .error (.refused ("refusing to destroy " ++ path ++ " without --yes")))

/-- Lets a database check itself. -/
def repair (path : String) : Step := fun s =>
  thenPrint (s.repair path) fun _ => .line ("Repaired " ++ path)

/-! ## Commands -/

/-- The version of the program. -/
def release : String := "0.3.0"

/-- Goes on with the path, which a command needs. -/
def withPath (path : Option String) (command : String) (go : String → Step) : Step := fun s =>
  match path with
  | some path => go path s
  | none => (s, .error (.pathRequired command))

/-- Runs a command.  The start of a scan is decoded before anything else. -/
def perform (invocation : Invocation) : Step :=
  let codec := Codec.ofSwitch invocation.base64
  let withPath := withPath invocation.path
  match invocation.command with
  | .get key => withPath "get" fun path => get path codec key
  | .put key value sync => withPath "put" fun path => put path codec key value sync
  | .delete key sync => withPath "delete" fun path => delete path codec key sync
  | .scan start limit reverse format => fun s =>
    match start.mapM codec.decode with
    | .error complaint => (s, .error complaint)
    | .ok start =>
      withPath "scan" (fun path => scan path codec ⟨start, limit, reverse⟩ format) s
  | .property name => withPath "property" fun path => property path name
  | .inspect format => withPath "inspect" fun path => inspect path format
  | .destroy yes => withPath "destroy" fun path => destroy path yes
  | .repair => withPath "repair" repair
  | .version => fun s => (s, .ok (.line ("kvbridge CLI v" ++ release)))

/-! ## Runs of the program -/

/-- How a run of the program ends. -/
structure Ending where
  exit : Nat
  printed : Printed
  deriving DecidableEq, Repr

/-- How the program is used, in a line. -/
def usage : String := "Usage: kvbridge [OPTIONS] <COMMAND>"

/-- The end of a run that has come to a result. -/
def endingOf : Except Complaint Printed → Ending
  | .ok printed => ⟨0, printed⟩
  | .error complaint => ⟨1, .note ("Error: " ++ complaint.literal)⟩

/-- The end of a run that has not come to a command. -/
def Stop.ending : Stop → Ending
  | .misuse => ⟨2, .note usage⟩
  | .version => ⟨0, .line ("kvbridge " ++ release)⟩
  | .help => ⟨0, .line usage⟩

/-- Runs the program on a file system. -/
def run (v : Volume) (words : List String) : Volume × Ending :=
  match parse words with
  | .error why => (v, why.ending)
  | .ok invocation =>
    let (s, result) := perform invocation (.ofVolume v)
    (s.volume, endingOf result)

end OrderedStore.Cli
