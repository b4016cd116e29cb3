import OrderedStore.Directory
import OrderedStore.Options
import OrderedStore.Verdicts

/-!
# The storage engine

An engine keeps the latest committed keyspace of one database, in memory alone or
with a file behind it.  A view is the keyspace as it was when the view was opened.

Writes go through a transaction, step by step.  What it applies is staged beside the
latest keyspace; only its commit puts the staged keyspace into the file and makes it the
latest one.  A step that is refused ends the transaction, and what was staged is dropped
with it.  Setting up the keyspace of a file is such a transaction with nothing to apply.

Where the file has been cut off under a live engine, the first access that needs
the file fails as a file failure, and from then on the engine refuses every access.
-/

set_option autoImplicit false

namespace OrderedStore

/-- Where an engine with a file lives. -/
structure Home where
  directory : Directory
  data : FileId
  deriving DecidableEq, Repr

/-- A live engine. -/
structure Engine where
  /-- `none` for an engine in memory. -/
  home : Option Home
  latest : Keyspace
  /-- Has an access to the file failed? -/
  failed : Bool
  deriving DecidableEq

namespace Engine

/-- An engine in memory, with nothing in it. -/
def inMemory : Engine := ⟨none, .empty, false⟩

/-- Puts a keyspace into the engine file, if there is one. -/
def store (v : Volume) (engine : Engine) (keyspace : Keyspace) : Volume :=
  match engine.home with
  | none => v
  | some home => v.setContents home.data (.image keyspace)

/-- Lets go of the engine file. -/
def letGo (v : Volume) (engine : Engine) : Volume :=
  match engine.home with
  | none => v
  | some home => v.setLocked home.data false

/-- Lets go of the engine file, and then of the directory. -/
def release (v : Volume) (engine : Engine) : Volume :=
  match engine.home with
  | none => v
  | some home => home.directory.release (v.setLocked home.data false)

end Engine

/-! ## Transactions -/

/-- A write transaction on an engine. -/
structure Transaction where
  volume : Volume
  engine : Engine
  /-- The keyspace that a commit would leave. -/
  staged : Keyspace
  /-- What has been applied, oldest first. -/
  applied : List Mutation

namespace Transaction

/-- A transaction on the latest committed state. -/
def on (v : Volume) (engine : Engine) : Transaction := ⟨v, engine, engine.latest, []⟩

/-- What a step does that the engine grants. -/
def perform (t : Transaction) : Step → Transaction
  | .start => t
  | .openTable => t
  | .apply mutation =>
    { t with staged := t.staged.apply mutation, applied := t.applied ++ [mutation] }
  | .commit =>
    { t with
      volume := t.engine.store t.volume t.staged
      engine := { t.engine with latest := t.staged } }

/-- Takes one step after the other, up to the first one that the engine refuses. -/
def through (verdicts : Verdicts) (purpose : Purpose) :
    Transaction → List Step → Transaction × Except Fault Unit
  | t, [] => (t, .ok ())
  | t, step :: rest =>
    match verdicts.refusal (.transact purpose t.applied step) with
    | some fault => (t, .error fault)
    | none => through verdicts purpose (t.perform step) rest

/-- The steps that write a list of mutations. -/
def steps (mutations : List Mutation) : List Step :=
  .start :: .openTable :: mutations.map .apply ++ [.commit]

end Transaction

namespace Engine

/-- Carries a transaction through as far as the engine grants its steps.  What is staged is
lost with the transaction. -/
def transact (v : Volume) (engine : Engine) (purpose : Transaction.Purpose)
    (mutations : List Mutation) (verdicts : Verdicts) : Volume × Engine × Except Error Unit :=
  match (Transaction.on v engine).through verdicts purpose (Transaction.steps mutations) with
  | (t, .error fault) => (t.volume, t.engine, .error (.ofFault fault))
  | (t, .ok ()) => (t.volume, t.engine, .ok ())

/-! ## Opening -/

/-- What the engine makes of the contents of its file. -/
def judge (create : Bool) : Contents → Except Fault Keyspace
  | .image keyspace => .ok keyspace
  | .raw bytes => Image.judge create bytes

/-- Takes up and locks the engine file of a directory.  With the engine comes what was in
the file before. -/
def openData (v : Volume) (directory : Directory) (create : Bool) (verdicts : Verdicts) :
    Volume × Except Error (Engine × Contents) :=
  match v.openFile (Directory.dataPath directory.text) create with
  | .error e => (v, .error (.ofFault (.io e.text)))
  | .ok (v, data) =>
    if v.isLocked data then (v, .error (.ofFault .alreadyOpen))
    else match judge create (v.contents data) with
      | .error fault => (v, .error (.ofFault fault))
      | .ok keyspace =>
        match verdicts.refusal (.adopt (some (v.contents data))) with
        | some fault => (v, .error (.ofFault fault))
        | none =>
          ((v.setContents data (.image keyspace)).setLocked data true,
            .ok (⟨some ⟨directory, data⟩, keyspace, false⟩, v.contents data))

/-- Lets the engine check a file that had these contents, and says whether the file had to
be rebuilt. -/
def checkIntegrity (v : Volume) (engine : Engine) (found : Contents) (verdicts : Verdicts) :
    Volume × Engine × Except Error Bool :=
  match verdicts.refusal (.check found) with
  | some fault => (v, engine, .error (.ofFault fault))
  | none =>
    match verdicts.finding found with
    | .clean => (v, engine, .ok false)
    | .rebuilt left => (engine.store v left, { engine with latest := left }, .ok true)

/-- Takes up the engine file of a directory, has it checked if that is asked for, and sets
up its keyspace.  The file is let go again if a later step fails.  The flag says whether the
check has rebuilt the file. -/
def openChecked (v : Volume) (directory : Directory) (create checks : Bool)
    (verdicts : Verdicts) : Volume × Bool × Except Error Engine :=
  match openData v directory create verdicts with
  | (v, .error e) => (v, false, .error e)
  | (v, .ok (engine, found)) =>
    match if checks then engine.checkIntegrity v found verdicts else (v, engine, .ok false) with
    | (v, engine, .error e) => (engine.letGo v, false, .error e)
    | (v, engine, .ok rebuilt) =>
      match engine.transact v (.file found) [] verdicts with
      | (v, engine, .error e) => (engine.letGo v, rebuilt, .error e)
      | (v, engine, .ok ()) => (v, rebuilt, .ok engine)

/-- Opens the engine of a locked directory.  The flag says whether a check has rebuilt the
engine file. -/
def openIn (v : Volume) (directory : Directory) (options : Options) (verdicts : Verdicts) :
    Volume × Bool × Except Error Engine :=
  if directory.hasData v && options.errorIfExists then
    (v, false,
      .error (.generic s!"{directory.text}: exists (error_if_exists is true)"))
  else openChecked v directory options.createIfMissing options.paranoidChecks verdicts

/-- Opens an engine in memory. -/
def openInMemory (verdicts : Verdicts) : Except Error Engine :=
  match verdicts.refusal (.adopt none) with
  | some fault => .error (.ofFault fault)
  | none =>
    match inMemory.transact .empty .memory [] verdicts with
    | (_, _, .error e) => .error e
    | (_, engine, .ok ()) => .ok engine

/-! ## Access -/

/-- Is the keyspace still in the file? -/
def sound (v : Volume) (engine : Engine) : Bool :=
  match engine.home with
  | none => true
  | some home =>
    match v.contents home.data with
    | .image _ => true
    | .raw _ => false

/-- What an access to the file comes to. -/
def access (v : Volume) (engine : Engine) : Except Error Unit :=
  if engine.failed then .error (.ofFault .previousIo)
  else if engine.sound v then .ok ()
  else .error (.ofFault (.io "failed to fill whole buffer"))

/-- The engine after an access to the file. -/
def accessed (v : Volume) (engine : Engine) : Engine :=
  { engine with failed := engine.failed || !engine.sound v }

/-- A view of the latest committed state. -/
def view (v : Volume) (engine : Engine) : Except Error Keyspace :=
  (engine.access v).map fun _ => engine.latest

/-- Commits a list of writes, all of them or none.  If nothing is said of the engine, it grants
what it is asked. -/
def commit (v : Volume) (engine : Engine) (mutations : List Mutation)
    (verdicts : optParam Verdicts .granting) : Volume × Engine × Except Error Unit :=
  match engine.access v with
  | .error e => (v, engine.accessed v, .error e)
  | .ok () => engine.transact v .write mutations verdicts

/-- The size of the engine file, zero in memory. -/
def size (v : Volume) (engine : Engine) : Except Error Nat :=
  match engine.home with
  | none => .ok 0
  | some home => home.directory.dataSize v

/-- The path of the database as its opener wrote it. -/
def path? (engine : Engine) : Option String := engine.home.map fun home => home.directory.text

end Engine

end OrderedStore
