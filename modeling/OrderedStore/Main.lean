import OrderedStore.Cli.Run

/-!
# The program

A run of the program works on a volume.  This module gathers into a volume what is on
disk at the database's path and on the way to it, runs the program, and puts what has
changed back on disk.  While the run lasts it holds the locks of the database's files;
a file that somebody else holds is locked in the volume as well.
-/

set_option autoImplicit false

namespace OrderedStore.Disk

/-- A path as the operating system writes it. -/
def place (path : Path) : String := "/" ++ "/".intercalate path

/-- The paths that following names leads through. -/
def trail (here : Path) : List String → List Path
  | [] => []
  | name :: rest =>
    if name = "." then trail here rest
    else if name = ".." then trail here.dropLast rest
    else (here ++ [name]) :: trail (here ++ [name]) rest

/-- Locks on files. -/
abbrev Locks := List IO.FS.Handle

/-- The name of the lock file of a database. -/
def lockName : String := Directory.lockPath ""

/-- The name of the engine file of a database. -/
def dataName : String := Directory.dataPath ""

/-- Adds what is at a path to a volume, if anything is. -/
def fetch (v : Volume) (path : Path) : IO Volume := do
  if (v.node? path).isSome then return v
  let there := (← IO.currentDir) / place path
  if ← there.isDir then return v.link path .directory
  unless ← there.pathExists do return v
  let (v, id) := v.addFile path
  if path.getLast? = some dataName then
    return v.setContents id (.raw (← IO.FS.readBinFile there).toList)
  return v

/-- Locks the file at a path, if there is one and nobody else holds it. -/
def hold (v : Volume) (locks : Locks) (path : Path) : IO (Volume × Locks) := do
  match v.node? path with
  | some (.file id) =>
    let handle ← IO.FS.Handle.mk (place path) .readWrite
    if ← handle.tryLock then return (v, handle :: locks)
    return (v.setLocked id true, locks)
  | _ => return (v, locks)

/-- Gathers the database at a written path, and the way to it. -/
def gather (text : String) : IO (Volume × Locks) := do
  let here := Volume.names (← IO.currentDir).toString
  let v := { Volume.empty with workingDirectory := here }
  let v ← (trail [] here ++ trail (v.start text) (Volume.names text)).foldlM fetch v
  match v.find text with
  | .ok (path, .directory) =>
    let names := (← ((← IO.currentDir) / place path).readDir).toList.map (·.fileName)
    let v ← (names.map fun name => path ++ [name]).foldlM fetch v
    let (v, locks) ← hold v [] (path ++ [lockName])
    hold v locks (path ++ [dataName])
  | _ => return (v, [])

/-- Carries out on disk what has changed from one volume to another: first what is
gone, each name before the directory that it was in, and then what is new. -/
def settle (before after : Volume) : IO Unit := do
  for (path, node) in before.nodes do
    if (after.node? path).isNone then
      match node with
      | .directory => IO.FS.removeDir (place path)
      | .file _ => IO.FS.removeFile (place path)
  for (path, node) in after.nodes.reverse do
    match node with
    | .directory => unless before.isDirectory path do IO.FS.createDir (place path)
    | .file id =>
      let bytes := (after.contents id).bytes
      unless before.node? path = some node && (before.contents id).bytes = bytes do
        IO.FS.writeBinFile (place path) ⟨bytes.toArray⟩

/-- The path of the database that the words of a command line name. -/
def pathOf (words : List String) : Option String :=
  match Cli.parse words with
  | .ok invocation => invocation.path
  | .error _ => none

/-- Runs the program on the disk. -/
def run (words : List String) : IO UInt32 := do
  let (before, locks) ← match pathOf words with
    | some text => if (Volume.checkText text).isOk then gather text else pure (.empty, [])
    | none => pure (.empty, [])
  let (after, ending) := Cli.run before words
  settle before after
  locks.forM fun handle => handle.unlock
  IO.print ending.printed.output
  ending.printed.notes.forM fun note => IO.eprintln note
  return .ofNat ending.exit

end OrderedStore.Disk

/-- The program. -/
def main (words : List String) : IO UInt32 := OrderedStore.Disk.run words
