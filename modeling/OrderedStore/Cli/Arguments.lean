import OrderedStore.Text.Digits

/-!
# Command lines

`parse` reads the words of a command line one after the other.  Options stand before or
after the command.  A few belong to every command and may be given on either
side, where the later side wins; the others belong to one command.  An option may
be given once on a side.

An option with a value takes it from the same word or from the next one, which may
not look like an option itself.  After `--` all words are arguments.  In the place of
the command may stand `help`, and the name of a command behind it.
-/

set_option autoImplicit false

namespace OrderedStore.Cli

/-- The forms in which results are printed. -/
inductive Format where
  | text
  | json
  deriving DecidableEq, Repr

/-- The form of a name. -/
def Format.ofName? : String → Option Format
  | "text" => some .text
  | "json" => some .json
  | _ => none

/-- What to do. -/
inductive Command where
  | get (key : String)
  | put (key value : String) (sync : Bool)
  | delete (key : String) (sync : Bool)
  | scan (start : Option String) (limit : Option Nat) (reverse : Bool) (format : Format)
  | property (name : String)
  | inspect (format : Format)
  | destroy (yes : Bool)
  | repair
  | version
  deriving DecidableEq, Repr

/-- A command line that has been understood. -/
structure Invocation where
  path : Option String
  verbose : Bool
  base64 : Bool
  command : Command
  deriving DecidableEq, Repr

/-- Why no command is run. -/
inductive Stop where
  /-- The command line is wrong. -/
  | misuse
  /-- It asks for the version of the program. -/
  | version
  /-- It asks how the program is used. -/
  | help
  deriving DecidableEq, Repr

/-! ## Words -/

/-- The commands by name. -/
inductive Verb where
  | get
  | put
  | delete
  | scan
  | property
  | inspect
  | destroy
  | repair
  | version
  deriving DecidableEq, Repr

/-- The command of a word. -/
def Verb.ofName? : String → Option Verb
  | "get" => some .get
  | "put" => some .put
  | "delete" => some .delete
  | "scan" => some .scan
  | "property" => some .property
  | "inspect" => some .inspect
  | "destroy" => some .destroy
  | "repair" => some .repair
  | "version" => some .version
  | _ => none

/-- The number of arguments of a command. -/
def Verb.arity : Verb → Nat
  | .get | .delete | .property => 1
  | .put => 2
  | .scan | .inspect | .destroy | .repair | .version => 0

/-- Options without a value. -/
inductive Switch where
  | verbose
  | base64
  | sync
  | reverse
  | yes
  deriving DecidableEq, Repr

/-- Options with a value. -/
inductive Setting where
  | path
  | start
  | limit
  | format
  deriving DecidableEq, Repr

/-- What an option stands for. -/
inductive Meaning where
  | switch (s : Switch)
  | setting (s : Setting)
  | stop (why : Stop)
  deriving DecidableEq, Repr

/-- An option with its names. -/
structure OptionName where
  short : Option Char
  long : String
  meaning : Meaning
  deriving DecidableEq, Repr

/-- The options that stand on either side of the command. -/
def sharedOptions : List OptionName :=
  [⟨some 'p', "path", .setting .path⟩,
   ⟨some 'v', "verbose", .switch .verbose⟩,
   ⟨none, "base64", .switch .base64⟩,
   ⟨some 'h', "help", .stop .help⟩]

/-- The options of a command. -/
def Verb.ownOptions : Verb → List OptionName
  | .put | .delete => [⟨some 's', "sync", .switch .sync⟩]
  | .scan =>
    [⟨some 's', "start", .setting .start⟩,
     ⟨some 'l', "limit", .setting .limit⟩,
     ⟨some 'r', "reverse", .switch .reverse⟩,
     ⟨some 'f', "format", .setting .format⟩]
  | .inspect => [⟨some 'f', "format", .setting .format⟩]
  | .destroy => [⟨none, "yes", .switch .yes⟩]
  | .get | .property | .repair | .version => []

/-- The options that may stand after a command, or before any. -/
def optionsAfter : Option Verb → List OptionName
  | some verb => sharedOptions ++ verb.ownOptions
  | none => sharedOptions ++ [⟨some 'V', "version", .stop .version⟩]

/-! ## What has been given -/

/-- What has been given on one side of the command. -/
structure Given where
  path : Option String := none
  start : Option String := none
  limit : Option Nat := none
  format : Option Format := none
  switches : List Switch := []
  arguments : List String := []
  deriving DecidableEq, Repr

/-- The greatest limit. -/
def greatestLimit : Nat := 0xffffffffffffffff

/-- A limit: decimal digits, with or without a plus sign. -/
def limit? (text : String) : Option Nat := (Text.unsigned? text).filter (· ≤ greatestLimit)

namespace Given

/-- Gives an option its value, which it may not have yet. -/
def set (given : Given) (setting : Setting) (value : String) : Except Stop Given :=
  match setting with
  | .path =>
    if given.path.isSome || value = "" then .error .misuse
    else .ok { given with path := some value }
  | .start =>
    if given.start.isSome then .error .misuse else .ok { given with start := some value }
  | .limit =>
    match given.limit, limit? value with
    | none, some limit => .ok { given with limit := some limit }
    | _, _ => .error .misuse
  | .format =>
    match given.format, Format.ofName? value with
    | none, some format => .ok { given with format := some format }
    | _, _ => .error .misuse

/-- Turns a switch on, which may not be on yet. -/
def turnOn (given : Given) (switch : Switch) : Except Stop Given :=
  if given.switches.contains switch then .error .misuse
  else .ok { given with switches := switch :: given.switches }

/-- Is the switch on? -/
def has (given : Given) (switch : Switch) : Bool := given.switches.contains switch

end Given

/-! ## Reading -/

/-- How far a command line has been read. -/
structure Reading where
  /-- What stands before the command. -/
  before : Given := {}
  verb : Option Verb := none
  /-- What stands after the command. -/
  after : Given := {}
  /-- The option whose value comes next. -/
  pending : Option Setting := none
  /-- Has `--` been read? -/
  plain : Bool := false
  /-- The words behind `help`, if that has been read in the place of the command. -/
  topics : Option (List String) := none
  deriving DecidableEq, Repr

namespace Reading

/-- Changes what is given on the side that is being read. -/
def update (r : Reading) (f : Given → Except Stop Given) : Except Stop Reading :=
  match r.verb with
  | none => (f r.before).map fun given => { r with before := given }
  | some _ => (f r.after).map fun given => { r with after := given }

/-- Finds an option that may stand here. -/
def find (r : Reading) (p : OptionName → Bool) : Except Stop Meaning :=
  match (optionsAfter r.verb).find? p with
  | some option => .ok option.meaning
  | none => .error .misuse

/-- Reads an argument of the command. -/
def argument (r : Reading) (word : String) : Except Stop Reading :=
  match r.verb with
  | none => .error .misuse
  | some verb =>
    if r.after.arguments.length < verb.arity then
      .ok { r with after := { r.after with arguments := r.after.arguments ++ [word] } }
    else .error .misuse

/-- The word that asks for help in the place of the command. -/
def helpName : String := "help"

/-- Reads a word that is no option: the command, or an argument of it. -/
def word (r : Reading) (text : String) : Except Stop Reading :=
  match r.verb with
  | some _ => r.argument text
  | none =>
    match Verb.ofName? text with
    | some verb => .ok { r with verb := some verb }
    | none => if text = helpName then .ok { r with topics := some [] } else .error .misuse

/-- What a request for help on some topics comes to.  There is help on the whole program
and on each command, the one for help among them. -/
def helpOn : List String → Stop
  | [] => .help
  | [name] => if (Verb.ofName? name).isSome || name = helpName then .help else .misuse
  | _ => .misuse

/-- Reads `--name` or `--name=value`. -/
def long (r : Reading) (name : String) (value : Option String) : Except Stop Reading := do
  match ← r.find fun option => option.long = name, value with
  | .switch switch, none => r.update (·.turnOn switch)
  | .setting setting, none => .ok { r with pending := some setting }
  | .setting setting, some value => r.update (·.set setting value)
  | .stop why, none => .error why
  | _, some _ => .error .misuse

/-- Reads the letters of a word that begins with one dash.  The rest of the word behind
an option with a value is the value. -/
def letters (r : Reading) : List Char → Except Stop Reading
  | [] => .ok r
  | c :: rest =>
    match r.find fun option => option.short = some c with
    | .error why => .error why
    | .ok (.stop why) => .error why
    | .ok (.switch switch) =>
      match r.update (·.turnOn switch) with
      | .error why => .error why
      | .ok r => letters r rest
    | .ok (.setting setting) =>
      match rest with
      | [] => .ok { r with pending := some setting }
      | '=' :: value => r.update (·.set setting (String.ofList value))
      | value => r.update (·.set setting (String.ofList value))

/-- Splits `name=value` at the first equals sign. -/
def splitValue (text : List Char) : String × Option String :=
  match text.dropWhile (· ≠ '=') with
  | [] => (String.ofList text, none)
  | _ :: value => (String.ofList (text.takeWhile (· ≠ '=')), some (String.ofList value))

/-- Reads one word. -/
def step (r : Reading) (text : String) : Except Stop Reading :=
  match r.topics with
  | some topics => .ok { r with topics := some (topics ++ [text]) }
  | none =>
    if r.plain then r.argument text
    else
      match r.pending, text.toList with
      | some _, '-' :: _ :: _ => .error .misuse
      | some setting, _ => { r with pending := none }.update (·.set setting text)
      | none, ['-', '-'] => .ok { r with plain := true }
      | none, '-' :: '-' :: rest =>
        let (name, value) := splitValue rest
        r.long name value
      | none, '-' :: c :: rest => r.letters (c :: rest)
      | none, _ => r.word text

/-- The command that has been read. -/
def command? (verb : Verb) (given : Given) : Option Command :=
  match verb, given.arguments with
  | .get, [key] => some (.get key)
  | .put, [key, value] => some (.put key value (given.has .sync))
  | .delete, [key] => some (.delete key (given.has .sync))
  | .scan, [] =>
    some (.scan given.start given.limit (given.has .reverse) (given.format.getD .text))
  | .property, [name] => some (.property name)
  | .inspect, [] => some (.inspect (given.format.getD .text))
  | .destroy, [] => some (.destroy (given.has .yes))
  | .repair, [] => some .repair
  | .version, [] => some .version
  | _, _ => none

/-- The invocation that has been read. -/
def finish (r : Reading) : Except Stop Invocation :=
  match r.topics, r.pending, r.verb.bind (command? · r.after) with
  | some topics, _, _ => .error (helpOn topics)
  | none, none, some command =>
    .ok {
      path := r.after.path.or r.before.path
      verbose := r.before.has .verbose || r.after.has .verbose
      base64 := r.before.has .base64 || r.after.has .base64
      command := command }
  | none, _, _ => .error .misuse

end Reading

/-- Reads a command line. -/
def parse (words : List String) : Except Stop Invocation := do
  let r ← words.foldlM Reading.step {}
  r.finish

end OrderedStore.Cli
