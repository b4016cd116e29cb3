import OrderedStore.Log.Event
import OrderedStore.Log.Pattern

/-!
# Which events are wanted

A filter is a list of directives.  Each names the beginning of the targets it is
about and the most verbose level it lets through.  A plain directive is about events
by themselves, and may ask for a field that they have; of the plain ones that fit an
event the most particular decides.  A directive may also name a span, or a field of a
span and a value of it: everything inside of such a span is let through up to the
level of the directive.  The last of the directives with one subject replaces the others.

No event is wanted that is more verbose than every directive of the filter.
-/

set_option autoImplicit false

namespace OrderedStore

/-- What a directive asks of the value of a field. -/
structure ValueTest where
  /-- The value as it is written. -/
  text : String
  /-- The pattern of the texts that have the value.  A truth value or a number has no
  pattern, and no text is one. -/
  pattern : Option Pattern
  deriving DecidableEq, Repr

/-- Does a text have the value? -/
def ValueTest.accepts (test : ValueTest) (text : String) : Bool :=
  test.pattern.any fun pattern => pattern.accepts text

/-- A field that a directive asks for. -/
structure FieldTest where
  name : String
  value : Option ValueTest
  deriving DecidableEq, Repr

/-- One rule of a filter: what it is about, and up to which level (`none` is silence). -/
structure Directive where
  target : String
  span : Option String
  field : Option FieldTest
  limit : Option Level
  deriving DecidableEq, Repr

/-- The place of a limit in the order of levels, with silence below all. -/
def limitRank (limit : Option Level) : Nat := (limit.map Level.rank).getD 0

namespace Directive

/-- The directive about all events. -/
def general (limit : Option Level) : Directive := ⟨"", none, none, limit⟩

/-- Does the directive let a level through? -/
def admits (directive : Directive) (level : Level) : Bool :=
  level.rank ≤ limitRank directive.limit

/-- Does the directive speak of the target? -/
def covers (directive : Directive) (target : String) : Bool :=
  directive.target.toList.isPrefixOf target.toList

/-- The names of the fields that the directive asks for. -/
def fieldNames (directive : Directive) : List String :=
  directive.field.toList.map FieldTest.name

/-- Does the directive ask for a value? -/
def asksValue (directive : Directive) : Bool :=
  directive.field.any fun field => field.value.isSome

/-- Is the directive about events by themselves? -/
def isPlain (directive : Directive) : Bool := directive.span.isNone && !directive.asksValue

/-- Is the directive about what is inside of spans? -/
def isScoped (directive : Directive) : Bool := directive.span.isSome || directive.field.isSome

/-- Are two directives about the same? -/
def sameSubject (a b : Directive) : Bool :=
  a.target = b.target && a.span = b.span && a.field = b.field

/-- Does a plain directive that is about less decide instead of this one?  Longer
targets are about less, and so are fields; of two fields the later in the order of
names counts. -/
def yieldsTo (a b : Directive) : Bool :=
  a.target.length < b.target.length
    || (a.target.length = b.target.length && a.fieldNames < b.fieldNames)

/-- Does the directive fit the event? -/
def fits (directive : Directive) (record : Record) : Bool :=
  directive.covers record.target
    && directive.fieldNames.all fun name => record.fieldNames.contains name

/-- Does the directive fit the spans that loggers stand in? -/
def fitsSpan (directive : Directive) : Bool :=
  directive.covers Notice.loggerTarget
    && directive.span.all (· = Record.spanName)
    && directive.fieldNames.all (· = Record.spanField)

/-- Does the directive fit the span that names a database? -/
def fitsDatabase (directive : Directive) (database : String) : Bool :=
  directive.fitsSpan && directive.field.all fun field =>
    field.value.all fun value => value.accepts database

end Directive

/-- Which events are wanted. -/
abbrev Filter := List Directive

namespace Filter

/-- The filter that wants nothing. -/
def silent : Filter := []

/-- The filter that wants every target up to a level. -/
def upTo (level : Level) : Filter := [.general (some level)]

/-- The directives that have not been replaced. -/
def standing : Filter → List Directive
  | [] => []
  | directive :: rest =>
    if rest.any directive.sameSubject then standing rest else directive :: standing rest

/-- The standing directives about spans. -/
def aboutSpans (filter : Filter) : List Directive := (standing filter).filter Directive.isScoped

/-- The most verbose level of some directives. -/
def greatest (directives : List Directive) : Nat :=
  directives.foldl (fun most directive => max most (limitRank directive.limit)) 0

/-- The level beyond which nothing is wanted.  Where a value is asked for, it is not known
before the span is there, and nothing is ruled out. -/
def ceiling (filter : Filter) : Nat :=
  if filter.any Directive.asksValue then Level.trace.rank else greatest filter

/-- The plain directive that decides among those with a property. -/
def decisive (filter : Filter) (p : Directive → Bool) : Option Directive :=
  ((standing filter).filter fun directive => directive.isPlain && p directive).foldl
    (fun best directive =>
      match best with
      | some other => if directive.yieldsTo other then best else some directive
      | none => some directive) none

/-- Is an event wanted for what it is? -/
def enablesPlainly (filter : Filter) (record : Record) : Bool :=
  (filter.decisive (·.fits record)).any (·.admits record.level)

/-- Is everything of a level wanted inside of the span that names a database? -/
def enablesWithin (filter : Filter) (database : String) (level : Level) : Bool :=
  filter.aboutSpans.any fun directive => directive.fitsDatabase database && directive.admits level

/-- Is the event wanted? -/
def enables (filter : Filter) (record : Record) : Bool :=
  record.level.rank ≤ filter.ceiling
    && (filter.enablesPlainly record
      || record.span.any fun database => filter.enablesWithin database record.level)

/-- Are there to be spans that name the databases of loggers?  They are there for
debugging, or if a directive asks for them. -/
def opensSpans (filter : Filter) : Bool :=
  Level.debug.rank ≤ filter.ceiling
    && (filter.aboutSpans.any Directive.fitsSpan
      || (filter.decisive (·.covers Notice.loggerTarget)).any (·.admits .debug))

end Filter

end OrderedStore
