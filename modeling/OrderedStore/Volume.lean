import OrderedStore.Image
import OrderedStore.Table
import OrderedStore.Text.Utf8

/-!
# The file system

A volume holds directories and files.  Names lead to nodes, and a file's node leads to
the file itself, which has an identity of its own: a file whose name has been
removed, or given to another file, is still there for whoever holds it.  An
advisory lock belongs to the file and not to the name.

A `Path` is a list of names from the root of the volume.  Callers write a path as a
text, from the root or from the working directory, and each call follows the text anew:
`target` takes the directories on the way, which must exist, and leaves the last
name to the call.
-/

set_option autoImplicit false

namespace OrderedStore

/-- Why the file system refuses a call. -/
inductive FileError where
  | notFound
  | exists
  | notDirectory
  | isDirectory
  | nameTooLong
  | notEmpty
  | notRegular
  | nulInName
  | invalid
  deriving DecidableEq, Repr

/-- The operating system's words. -/
def FileError.text : FileError → String
  | .notFound => "No such file or directory (os error 2)"
  | .exists => "File exists (os error 17)"
  | .notDirectory => "Not a directory (os error 20)"
  | .isDirectory => "Is a directory (os error 21)"
  | .nameTooLong => "File name too long (os error 36)"
  | .notEmpty => "Directory not empty (os error 39)"
  | .notRegular => "the source path is neither a regular file nor a symlink to a regular file"
  | .nulInName => "file name contained an unexpected NUL byte"
  | .invalid => "Invalid argument (os error 22)"

/-- Names from the root of the volume down. -/
abbrev Path := List String

/-- What is in a file: bytes that somebody wrote, or the image of a keyspace that the
engine keeps there. -/
inductive Contents where
  | raw (bytes : Bytes)
  | image (keyspace : Keyspace)
  deriving DecidableEq

/-- The bytes of a file. -/
def Contents.bytes : Contents → Bytes
  | .raw bytes => bytes
  | .image keyspace => Image.encode keyspace

/-- The length of a file. -/
def Contents.size (contents : Contents) : Nat := contents.bytes.length

/-- Cuts a file off or fills it up with zeros. -/
def Contents.resize (contents : Contents) (length : Nat) : Contents :=
  let bytes := contents.bytes
  .raw (bytes.take length ++ List.replicate (length - bytes.length) 0)

/-- A file, which may be held under an exclusive lock. -/
structure File where
  contents : Contents
  locked : Bool
  deriving DecidableEq

/-- What a name leads to. -/
inductive Node where
  | directory
  | file (id : FileId)
  deriving DecidableEq, Repr

/-- Directories and files. -/
structure Volume where
  nodes : List (Path × Node)
  files : Table .file File
  /-- Where written paths begin that do not begin at the root. -/
  workingDirectory : Path

namespace Volume

/-- A volume with nothing below its root. -/
def empty : Volume := ⟨[], .empty, []⟩

instance : Inhabited Volume := ⟨empty⟩

/-! ## Nodes -/

/-- What a path leads to. -/
def node? (v : Volume) : Path → Option Node
  | [] => some .directory
  | path => (v.nodes.find? fun entry => entry.1 = path).map (·.2)

/-- Adds a name. -/
def link (v : Volume) (path : Path) (node : Node) : Volume :=
  { v with nodes := (path, node) :: v.nodes }

/-- Takes a name away. -/
def unlink (v : Volume) (path : Path) : Volume :=
  { v with nodes := v.nodes.filter fun entry => entry.1 ≠ path }

/-- Is there a directory? -/
def isDirectory (v : Volume) (path : Path) : Bool := v.node? path = some .directory

/-- Is there a name directly inside the directory? -/
def hasChild (v : Volume) (path : Path) : Bool :=
  v.nodes.any fun entry => entry.1 ≠ [] && entry.1.dropLast = path

/-- Adds an empty file. -/
def addFile (v : Volume) (path : Path) : Volume × FileId :=
  ({ v.link path (.file v.files.fresh) with files := v.files.insert ⟨.raw [], false⟩ },
    v.files.fresh)

/-! ## Paths as they are written -/

/-- The greatest length of a name, in bytes. -/
def nameLimit : Nat := 255

/-- The length, in bytes, from which on a written path is refused whole. -/
def pathLimit : Nat := 4096

/-- Refuses written paths that no file system call takes. -/
def checkText (text : String) : Except FileError Unit :=
  if '\x00' ∈ text.toList then .error .nulInName
  else if text = "" then .error .notFound
  else if pathLimit ≤ (utf8 text).length then .error .nameTooLong
  else .ok ()

/-- The names in a written path. -/
def names (text : String) : List String :=
  ((text.toList.splitOn '/').filter (· ≠ [])).map String.ofList

/-- Does a written path begin at the root? -/
def isRooted (text : String) : Bool := text.toList.head? = some '/'

/-- Does a written path end in a slash?  Then only a directory can be meant. -/
def isSlashed (text : String) : Bool := text.toList.getLast? = some '/'

/-- The directory where a written path begins. -/
def start (v : Volume) (text : String) : Path :=
  if isRooted text then [] else v.workingDirectory

/-- What a written path comes down to once the directories on the way are known. -/
inductive Target where
  /-- A directory under no name of its own: the root, or one that a dot stands for. -/
  | here (path : Path)
  /-- The directory that two dots stand for. -/
  | above (path : Path)
  /-- A name in a directory, which may lead nowhere. -/
  | entry (path : Path) (slashed : Bool)
  deriving DecidableEq, Repr

/-- Is the name one that a directory may have an entry for? -/
def checkName (name : String) : Except FileError Unit :=
  if nameLimit < (utf8 name).length then .error .nameTooLong else .ok ()

/-- Goes to a directory by a name in another one. -/
def enter (v : Volume) (here : Path) (name : String) : Except FileError Path :=
  if name = "." then .ok here
  else if name = ".." then .ok here.dropLast
  else
    match checkName name, v.node? (here ++ [name]) with
    | .error e, _ => .error e
    | .ok (), none => .error .notFound
    | .ok (), some (.file _) => .error .notDirectory
    | .ok (), some .directory => .ok (here ++ [name])

/-- What a written path comes down to. -/
def target (v : Volume) (text : String) : Except FileError Target := do
  checkText text
  let here ← (names text).dropLast.foldlM v.enter (v.start text)
  match (names text).getLast? with
  | none | some "." => pure (.here here)
  | some ".." => pure (.above here.dropLast)
  | some name => pure (.entry (here ++ [name]) (isSlashed text))

/-- Is the last name of a path one that a directory may have an entry for? -/
def checkLast (path : Path) : Except FileError Unit := checkName (path.getLast?.getD "")

/-- The node that a written path leads to, and the path of it. -/
def find (v : Volume) (text : String) : Except FileError (Path × Node) := do
  match ← v.target text with
  | .here path | .above path => pure (path, .directory)
  | .entry path slashed =>
    checkLast path
    match v.node? path with
    | none => throw .notFound
    | some .directory => pure (path, .directory)
    | some (.file id) => if slashed then throw .notDirectory else pure (path, .file id)

/-- Does a written path lead to anything? -/
def isThere (v : Volume) (text : String) : Bool := (v.find text).isOk

/-- Does a written path lead to a directory? -/
def leadsToDirectory (v : Volume) (text : String) : Bool :=
  match v.find text with
  | .ok (_, .directory) => true
  | _ => false

/-! ## Files -/

/-- Opens a file for writing that must be there. -/
def openExisting (v : Volume) (text : String) : Except FileError FileId := do
  match ← v.find text with
  | (_, .directory) => throw .isDirectory
  | (_, .file id) => pure id

/-- Opens a file for writing, and makes it if it is missing.  A path that can only mean a
directory is refused before anything is looked up. -/
def openOrCreate (v : Volume) (text : String) : Except FileError (Volume × FileId) := do
  match ← v.target text with
  | .here _ | .above _ | .entry _ true => throw .isDirectory
  | .entry path false =>
    checkLast path
    match v.node? path with
    | some .directory => throw .isDirectory
    | some (.file id) => pure (v, id)
    | none => pure (v.addFile path)

/-- Opens a file for writing; a missing one is made where that is asked for. -/
def openFile (v : Volume) (text : String) (create : Bool) : Except FileError (Volume × FileId) :=
  if create then v.openOrCreate text else (v.openExisting text).map fun id => (v, id)

/-- What is in a file. -/
def contents (v : Volume) (id : FileId) : Contents :=
  ((v.files.get? id).map File.contents).getD (.raw [])

/-- Changes what is in a file. -/
def setContents (v : Volume) (id : FileId) (contents : Contents) : Volume :=
  { v with files := v.files.modify id fun file => { file with contents := contents } }

/-- Is the file held under a lock? -/
def isLocked (v : Volume) (id : FileId) : Bool :=
  ((v.files.get? id).map File.locked).getD false

/-- Takes or releases the lock of a file. -/
def setLocked (v : Volume) (id : FileId) (locked : Bool) : Volume :=
  { v with files := v.files.modify id fun file => { file with locked := locked } }

/-- Takes the name of a file away. -/
def removeFile (v : Volume) (text : String) : Except FileError Volume := do
  match ← v.target text with
  | .here _ | .above _ => throw .isDirectory
  | .entry path slashed =>
    checkLast path
    match v.node? path with
    | none => throw .notFound
    | some .directory => throw .isDirectory
    | some (.file _) => if slashed then throw .notDirectory else pure (v.unlink path)

/-! ## Directories -/

/-- Makes a directory in one that is there. -/
def makeDirectory (v : Volume) (text : String) : Except FileError Volume := do
  match ← v.target text with
  | .here _ | .above _ => throw .exists
  | .entry path _ =>
    checkLast path
    match v.node? path with
    | some _ => throw .exists
    | none => pure (v.link path .directory)

/-- Removes an empty directory, which must be called by its name. -/
def removeDirectory (v : Volume) (text : String) : Except FileError Volume := do
  match ← v.target text with
  | .here _ => throw .invalid
  | .above _ => throw .notEmpty
  | .entry path _ =>
    checkLast path
    match v.node? path with
    | none => throw .notFound
    | some (.file _) => throw .notDirectory
    | some .directory => if v.hasChild path then throw .notEmpty else pure (v.unlink path)

/-- The names in a written path that take it further.  A dot does not, unless the path
begins with it. -/
def strides (text : String) : List String :=
  match isRooted text, names text with
  | false, "." :: rest => "." :: rest.filter (· ≠ ".")
  | _, names => names.filter (· ≠ ".")

/-- The written paths of the directories on the way to a written path, the innermost
first. -/
def ancestors (text : String) : List String :=
  let lead := if isRooted text then "/" else ""
  ((List.range (strides text).length).filter (0 < ·)).reverse.map fun n =>
    lead ++ "/".intercalate ((strides text).take n)

/-- Makes the first of the directories that can be made or is there already.  The
result has the ones before it, which are missing still, the last of them first. -/
def makeFirst (v : Volume) (missing : List String) :
    List String → Volume × Except FileError (List String)
  | [] => (v, .ok missing)
  | text :: rest =>
    match v.makeDirectory text with
    | .ok v => (v, .ok missing)
    | .error .notFound => makeFirst v (text :: missing) rest
    | .error e =>
      if e = .exists && v.leadsToDirectory text then (v, .ok missing) else (v, .error e)

/-- Makes directories one after the other; those that are there already are left. -/
def makeAll (v : Volume) : List String → Volume × Except FileError Unit
  | [] => (v, .ok ())
  | text :: rest =>
    match v.makeDirectory text with
    | .ok v => makeAll v rest
    | .error e =>
      if e = .exists && v.leadsToDirectory text then makeAll v rest else (v, .error e)

/-- Makes a directory and every directory on the way to it.  It is tried from the inside
to the outside until a directory can be made, and the others are then made inside of
it.  An empty path and the root need none. -/
def makeDirectories (v : Volume) (text : String) : Volume × Except FileError Unit :=
  if strides text = [] then (v, .ok ())
  else
    match v.makeFirst [] (text :: ancestors text) with
    | (v, .error e) => (v, .error e)
    | (v, .ok missing) => v.makeAll missing

/-! ## What others do to the files -/

/-- Writes a file anew, or over what it held. -/
def writeFile (v : Volume) (text : String) (bytes : Bytes) : Except FileError Volume := do
  let (v, id) ← v.openOrCreate text
  pure (v.setContents id (.raw bytes))

/-- Sets the length of a file. -/
def truncateFile (v : Volume) (text : String) (length : Nat) : Except FileError Volume := do
  let id ← v.openExisting text
  pure (v.setContents id ((v.contents id).resize length))

/-- Copies a file.  The copy is emptied before anything is read. -/
def copyFile (v : Volume) (source copy : String) : Except FileError Volume := do
  match ← v.find source with
  | (_, .directory) => throw .notRegular
  | (_, .file id) =>
    let (v, made) ← v.openOrCreate copy
    pure (v.setContents made (if made = id then .raw [] else v.contents id))

/-- Every path below the root, each directory before what is in it and names in the
order of their characters; a directory's path ends in a slash. -/
def listing (v : Volume) : List String :=
  (v.nodes.mergeSort fun a b => !decide (b.1 < a.1)).map fun (path, node) =>
    "/".intercalate path ++ (if node = .directory then "/" else "")

end Volume

end OrderedStore
