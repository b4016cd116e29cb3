import OrderedStore.Text.Alphanumeric

/-!
# Patterns

A pattern describes texts.  Where it leaves a choice, the branches have an order of
preference: the first branch of an alternative comes first, and a repetition prefers
to go on, or, if it is a lazy one, to stop.  `Pattern.choices` lists what a pattern can
do next in this order.  A text is accepted if a run through all of it is left that no
preferred choice has ended before.

Patterns are written with `.` for any character but a line break, sets in
brackets, `\d`, `\w` and `\s`, groups in parentheses, `|`, `*`, `+` and `?`, and `^`
and `$` for the two ends of the text.
-/

set_option autoImplicit false

namespace OrderedStore

/-! ## Sets of characters -/

/-- Kinds of characters that have a name. -/
inductive CharKind where
  | digit
  | word
  | blank
  deriving DecidableEq, Repr

/-- Is the character of the kind? -/
def CharKind.has (c : Char) : CharKind → Bool
  | .digit => c.isDigit
  | .word => Text.isAlphanumeric c || c = '_'
  | .blank => Text.isBlank c

/-- A part of a set of characters. -/
inductive CharSet.Part where
  /-- Two characters and all between them. -/
  | range (first last : Char)
  /-- The characters of a kind, or, turned round, those of any other. -/
  | named (kind : CharKind) (turned : Bool)
  deriving DecidableEq, Repr

/-- Is the character in the part? -/
def CharSet.Part.has (c : Char) : CharSet.Part → Bool
  | .range first last => first ≤ c && c ≤ last
  | .named kind turned => kind.has c != turned

/-- The characters in some part of a list, or, turned round, all others. -/
structure CharSet where
  parts : List CharSet.Part
  turned : Bool
  deriving DecidableEq, Repr

namespace CharSet

/-- Is the character in the set? -/
def has (set : CharSet) (c : Char) : Bool := (set.parts.any fun part => part.has c) != set.turned

/-- A single character. -/
def single (c : Char) : CharSet := ⟨[.range c c], false⟩

/-- The characters of a kind, or all others. -/
def ofKind (kind : CharKind) (turned : Bool) : CharSet := ⟨[.named kind turned], false⟩

/-- All characters but the line break. -/
def any : CharSet := ⟨[.range '\n' '\n'], true⟩

end CharSet

/-! ## Patterns and what they accept -/

/-- A description of texts. -/
inductive Pattern where
  /-- The empty text. -/
  | empty
  /-- Nothing, at the beginning of the text. -/
  | atStart
  /-- Nothing, at the end of the text. -/
  | atEnd
  | one (set : CharSet)
  | seq (first second : Pattern)
  | alt (preferred other : Pattern)
  /-- The pattern once or not at all. -/
  | optional (p : Pattern) (eager : Bool)
  /-- The pattern any number of times. -/
  | many (p : Pattern) (eager : Bool)
  deriving DecidableEq, Repr

namespace Pattern

/-- What a pattern can do next. -/
inductive Choice where
  /-- End here. -/
  | stop
  /-- End here if the text ends here too. -/
  | stopAtEnd
  /-- Read a character and go on. -/
  | read (set : CharSet) (rest : Pattern)
  deriving DecidableEq, Repr

namespace Choice

/-- The choice, made where the text must end. -/
def atEnd : Choice → Option Choice
  | .stop | .stopAtEnd => some .stopAtEnd
  | .read .. => none

/-- Goes on to another pattern, whose own choices are given, where this one ends. -/
def andThen (next : Pattern) (choices : List Choice) : Choice → List Choice
  | .stop => choices
  | .stopAtEnd => choices.filterMap atEnd
  | .read set rest => [.read set (rest.seq next)]

/-- Goes on to another pattern after a character. -/
def before (next : Pattern) : Choice → Choice
  | .read set rest => .read set (rest.seq next)
  | choice => choice

/-- What is left to do after a character. -/
def after (c : Char) : Choice → Option Pattern
  | .read set rest => if set.has c then some rest else none
  | _ => none

/-- Does the choice end a text here, at the end of it? -/
def ends : Choice → Bool
  | .stop | .stopAtEnd => true
  | .read .. => false

/-- The choices up to the first that stops, which the others do not come up
against. -/
def preferred : List Choice → List Choice
  | [] => []
  | .stop :: _ => [.stop]
  | choice :: rest => choice :: preferred rest

end Choice

/-- What a pattern can do next, preferred choices first.  A round of a repetition that
reads nothing is the last one. -/
def choices (first : Bool) : Pattern → List Choice
  | .empty => [.stop]
  | .atStart => if first then [.stop] else []
  | .atEnd => [.stopAtEnd]
  | .one set => [.read set .empty]
  | .seq p q => (p.choices first).flatMap (Choice.andThen q (q.choices first))
  | .alt p q => p.choices first ++ q.choices first
  | .optional p eager => if eager then p.choices first ++ [.stop] else .stop :: p.choices first
  | .many p eager =>
    let again := (p.choices first).map (Choice.before (.many p eager))
    if eager then again ++ [.stop] else .stop :: again

/-- What runs that have come to the same place can do next. -/
def outlook (first : Bool) (runs : List Pattern) : List Choice :=
  Choice.preferred (runs.flatMap (choices first))

/-- Does one of the runs come to the end of the text? -/
def reaches (first : Bool) (runs : List Pattern) : List Char → Bool
  | [] => (outlook first runs).any Choice.ends
  | c :: rest => reaches false ((outlook first runs).filterMap (Choice.after c)).eraseDups rest

/-- Does the pattern describe the whole text? -/
def accepts (p : Pattern) (text : String) : Bool := reaches true [p] text.toList

/-! ## Reading patterns -/

/-- A group that is being read: the branches that are complete, and the items of the
one that is not, both from the last to the first. -/
structure Group where
  branches : List Pattern := []
  items : List Pattern := []
  deriving DecidableEq, Repr

namespace Group

/-- The items in a row. -/
def branch (group : Group) : Pattern := group.items.foldl (fun rest item => item.seq rest) .empty

/-- What the group describes. -/
def pattern (group : Group) : Pattern :=
  group.branches.foldl (fun others branch => branch.alt others) group.branch

/-- Adds an item. -/
def push (group : Group) (item : Pattern) : Group := { group with items := item :: group.items }

/-- Begins a new branch. -/
def split (group : Group) : Group := ⟨group.branch :: group.branches, []⟩

end Group

/-- A set of characters that is being read. -/
structure SetReading where
  parts : List CharSet.Part := []
  turned : Bool := false
  /-- The character that a range may begin with. -/
  last : Option Char := none
  /-- Has a dash been read behind it? -/
  dashed : Bool := false
  /-- Has nothing been read yet? -/
  fresh : Bool := true
  deriving DecidableEq, Repr

namespace SetReading

/-- The parts, with the character that has turned out to stand for itself. -/
def settled (s : SetReading) : List CharSet.Part :=
  match s.last with
  | some c => .range c c :: s.parts
  | none => s.parts

/-- Reads a character that stands for itself. -/
def char (s : SetReading) (c : Char) : Option SetReading :=
  match s.last with
  | some first =>
    if s.dashed then
      if first ≤ c then some ⟨.range first c :: s.parts, s.turned, none, false, false⟩
      else none
    else some ⟨s.settled, s.turned, some c, false, false⟩
  | none => some ⟨s.parts, s.turned, some c, false, false⟩

/-- Reads the name of a kind. -/
def kind (s : SetReading) (kind : CharKind) (turned : Bool) : Option SetReading :=
  if s.dashed then none
  else some ⟨.named kind turned :: s.settled, s.turned, none, false, false⟩

/-- The set that has been read. -/
def set (s : SetReading) : CharSet :=
  ⟨if s.dashed then .range '-' '-' :: s.settled else s.settled, s.turned⟩

end SetReading

/-- What the next character of a written pattern belongs to. -/
inductive Mode where
  | item
  /-- A repetition has been read, which a question mark makes lazy. -/
  | repetition
  /-- An opening parenthesis has been read. -/
  | opening
  /-- An opening parenthesis and a question mark have been read. -/
  | flags
  | escape
  | set (s : SetReading)
  | setEscape (s : SetReading)
  deriving DecidableEq, Repr

/-- How far a written pattern has been read. -/
structure Reading where
  /-- The innermost group. -/
  group : Group := {}
  /-- The groups around it, from the inside to the outside. -/
  outer : List Group := []
  mode : Mode := .item
  deriving DecidableEq, Repr

/-- A letter behind a backslash that names a kind of characters; a capital means all
others. -/
def kind? : Char → Option (CharKind × Bool)
  | 'd' => some (.digit, false)
  | 'D' => some (.digit, true)
  | 'w' => some (.word, false)
  | 'W' => some (.word, true)
  | 's' => some (.blank, false)
  | 'S' => some (.blank, true)
  | _ => none

/-- The character that another one stands for behind a backslash. -/
def escaped? : Char → Option Char
  | 'a' => some '\x07'
  | 'f' => some '\x0c'
  | 'n' => some '\n'
  | 'r' => some '\r'
  | 't' => some '\t'
  | 'v' => some '\x0b'
  | c => if c.toNat < 0x80 && !c.isAlphanum && c != '<' && c != '>' then some c else none

namespace Reading

/-- Adds an item to the innermost group. -/
def push (r : Reading) (item : Pattern) : Reading :=
  { r with group := r.group.push item, mode := .item }

/-- Repeats the last item. -/
def again (r : Reading) (repeated : Pattern → Pattern) : Option Reading :=
  match r.group.items with
  | [] => none
  | item :: items =>
    some { r with group := { r.group with items := repeated item :: items }, mode := .repetition }

/-- A repetition that prefers to stop. -/
def lazy : Pattern → Pattern
  | .optional p _ => .optional p false
  | .many p _ => .many p false
  | .seq p (.many q _) => .seq p (.many q false)
  | p => p

/-- Reads a character where an item may begin. -/
def item (r : Reading) (c : Char) : Option Reading :=
  match c with
  | '(' => some { r with group := {}, outer := r.group :: r.outer, mode := .opening }
  | ')' =>
    match r.outer with
    | [] => none
    | group :: outer => some { r with group := group.push r.group.pattern, outer, mode := .item }
  | '|' => some { r with group := r.group.split, mode := .item }
  | '*' => r.again fun p => .many p true
  | '+' => r.again fun p => .seq p (.many p true)
  | '?' => r.again fun p => .optional p true
  | '[' => some { r with mode := .set {} }
  | '{' => none
  | '\\' => some { r with mode := .escape }
  | '.' => some (r.push (.one .any))
  | '^' => some (r.push .atStart)
  | '$' => some (r.push .atEnd)
  | c => some (r.push (.one (.single c)))

/-- Reads a character inside brackets. -/
def inSet (r : Reading) (s : SetReading) (c : Char) : Option Reading :=
  let go (s : SetReading) : Reading := { r with mode := .set s }
  match c with
  | '^' => if s.fresh && !s.turned then some (go { s with turned := true }) else (s.char c).map go
  | ']' => if s.fresh then (s.char c).map go else some (r.push (.one s.set))
  | '-' =>
    if s.last.isSome && !s.dashed then some (go { s with dashed := true }) else (s.char c).map go
  | '[' => none
  | '\\' => some { r with mode := .setEscape s }
  | c => (s.char c).map go

/-- Reads one character. -/
def step (r : Reading) (c : Char) : Option Reading :=
  match r.mode with
  | .item => r.item c
  | .repetition =>
    if c = '?' then (r.again lazy).map fun r => { r with mode := .item } else r.item c
  | .opening =>
    if c = '?' then some { r with mode := .flags } else { r with mode := .item }.item c
  | .flags => if c = ':' then some { r with mode := .item } else none
  | .escape =>
    match c, kind? c with
    | 'A', _ => some (r.push .atStart)
    | 'z', _ => some (r.push .atEnd)
    | _, some (kind, turned) => some (r.push (.one (.ofKind kind turned)))
    | c, none => (escaped? c).map fun c => r.push (.one (.single c))
  | .set s => r.inSet s c
  | .setEscape s =>
    match kind? c with
    | some (kind, turned) => (s.kind kind turned).map fun s => { r with mode := .set s }
    | none => (escaped? c).bind fun c => (s.char c).map fun s => { r with mode := .set s }

/-- The pattern that has been read. -/
def finish (r : Reading) : Option Pattern :=
  match r.outer, r.mode with
  | [], .item | [], .repetition => some r.group.pattern
  | _, _ => none

end Reading

/-- Reads a pattern. -/
def parse? (text : String) : Option Pattern :=
  (text.toList.foldlM Reading.step {}).bind Reading.finish

end Pattern

end OrderedStore
