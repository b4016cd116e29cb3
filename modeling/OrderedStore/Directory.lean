import OrderedStore.Error
import OrderedStore.Volume

/-!
# Database directories

A database on disk is a directory with two files in it: `LOCK`, which a session holds
under an exclusive lock for as long as it lives, and the engine file.  So at most
one session at a time has the directory.  A session knows its directory by the path that
the caller wrote, which is followed anew each time.

Destroying a database is a sequence of steps on the file system.  Each is a step of
its own here (`Removal.step`), since others may act between two of them; `destroy`
takes them one after the other.
-/

set_option autoImplicit false

namespace OrderedStore

/-- A database directory whose lock is held. -/
structure Directory where
  /-- The path as the caller wrote it. -/
  text : String
  lock : FileId
  deriving DecidableEq, Repr

namespace Directory

/-- A file system failure as an error. -/
def failure (e : FileError) : Error := .io e.text

/-- A written path with one more name. -/
def join (text name : String) : String :=
  if text = "" || Volume.isSlashed text then text ++ name else text ++ "/" ++ name

/-- The written path of the lock file. -/
def lockPath (text : String) : String := join text "LOCK"

/-- The written path of the engine file. -/
def dataPath (text : String) : String := join text "data.redb"

/-! ## Opening -/

/-- Opens the lock file, making it if need be, and takes its lock. -/
def acquire (v : Volume) (text : String) : Volume × Except Error FileId :=
  match v.openOrCreate (lockPath text) with
  | .error e => (v, .error (failure e))
  | .ok (v, lock) =>
    if v.isLocked lock then
      (v, .error (.io s!"lock {lockPath text}: already held by process"))
    else (v.setLocked lock true, .ok lock)

/-- Locks a path that has been seen or made to exist. -/
def enter (v : Volume) (text : String) : Volume × Except Error Directory :=
  if v.leadsToDirectory text then
    let (v, lock) := acquire v text
    (v, lock.map fun lock => ⟨text, lock⟩)
  else (v, .error (.io s!"{text}: not a directory"))

/-- Opens a database directory and locks it; a missing one is made where that is
asked for. -/
def openAt (v : Volume) (text : String) (create : Bool) : Volume × Except Error Directory :=
  if v.isThere text then enter v text
  else if create then
    match v.makeDirectories text with
    | (v, .ok ()) => enter v text
    | (v, .error e) => (v, .error (failure e))
  else (v, .error (.io s!"{text}: does not exist (create_if_missing is false)"))

/-- Lets the lock go. -/
def release (v : Volume) (directory : Directory) : Volume := v.setLocked directory.lock false

/-! ## The engine file -/

/-- Is there anything under the name of the engine file? -/
def hasData (v : Volume) (directory : Directory) : Bool := v.isThere (dataPath directory.text)

/-- What a directory itself counts for when its size is asked. -/
def directorySize : Nat := 4096

/-- The size of what the name of the engine file leads to. -/
def dataSize (v : Volume) (directory : Directory) : Except Error Nat :=
  match v.find (dataPath directory.text) with
  | .error e => .error (failure e)
  | .ok (_, .directory) => .ok directorySize
  | .ok (_, .file id) => .ok (v.contents id).size

end Directory

/-! ## Destroying -/

/-- How far the removal of a database has come. -/
inductive Removal where
  /-- Nothing has been done. -/
  | begun
  /-- The lock is held. -/
  | locked (lock : FileId)
  /-- The engine file is gone. -/
  | emptied (lock : FileId)
  /-- The lock has been let go. -/
  | unlocked
  /-- The lock file is gone. -/
  | cleared
  | finished (outcome : Except Error Unit)

namespace Removal

/-- The next step of removing the database at a path.  Where nothing is found under the
name of the engine file there is nothing to remove, and a directory that cannot be
removed in the end is left behind. -/
def step (text : String) (v : Volume) : Removal → Volume × Removal
  | .begun =>
    if v.isThere text then
      match Directory.acquire v text with
      | (v, .ok lock) => (v, .locked lock)
      | (v, .error e) => (v, .finished (.error e))
    else (v, .finished (.ok ()))
  | .locked lock =>
    if v.isThere (Directory.dataPath text) then
      match v.removeFile (Directory.dataPath text) with
      | .ok v => (v, .emptied lock)
      | .error e => (v.setLocked lock false, .finished (.error (Directory.failure e)))
    else (v, .emptied lock)
  | .emptied lock => (v.setLocked lock false, .unlocked)
  | .unlocked =>
    match v.removeFile (Directory.lockPath text) with
    | .ok v => (v, .cleared)
    | .error e => (v, .finished (.error (Directory.failure e)))
  | .cleared => ((v.removeDirectory text).toOption.getD v, .finished (.ok ()))
  | .finished outcome => (v, .finished outcome)

/-- So many steps. -/
def steps (text : String) : Nat → Volume → Removal → Volume × Removal
  | 0, v, removal => (v, removal)
  | n + 1, v, removal =>
    let (v, removal) := step text v removal
    steps text n v removal

/-- The number of steps after which every removal is finished. -/
def length : Nat := 5

/-- The outcome of a finished removal. -/
def outcome : Removal → Except Error Unit
  | .finished outcome => outcome
  | _ => .ok ()

end Removal

/-- Removes the files of the database at a path, and the directory if nothing else is
in it.  A path that leads nowhere is destroyed already. -/
def Directory.destroy (v : Volume) (text : String) : Volume × Except Error Unit :=
  let (v, removal) := Removal.steps text Removal.length v .begun
  (v, removal.outcome)

end OrderedStore
