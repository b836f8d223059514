import StandIn.Log.Line

/-!
# Which events are logged

A filter is a list of directives, written with commas between them.  A directive gives the least
urgent level that is logged, and may restrict itself to sources that begin in some way, to events
with certain fields, or to what happens in a span: `info`, `ingress_stub=debug`,
`sched_doubles[ingress]=trace`, `[{addr}]=warn`.

* `Directive`, `Filter` — what was asked for.
* `Directive.parse?`, `Filter.parse?` — reading it.
* `Filter.shows` — whether an event is logged.  Directives without a span compete, and only the
  most specific one that applies counts; those with a span add to it.
* `Filter.opens` — whether a span is noted at all.
* `Filter.pass` — a record as it is logged.
-/

namespace StandIn.Log

/-- How much a level lets through: 0 is nothing, and the least urgent events come last. -/
def Level.verbosity : Level → Nat
  | error => 1
  | warn => 2
  | info => 3
  | debug => 4
  | trace => 5

/-- The verbosity if everything is let through. -/
def fullVerbosity : Nat := 5

/-- A field that a directive asks for. -/
structure FieldMatch where
  name : String
  /-- Whether it asks for a value too. -/
  valued : Bool
  deriving DecidableEq, Repr

/-- What is logged of some part of a program. -/
structure Directive where
  verbosity : Nat
  source : Option String := none
  span : Option String := none
  fields : List FieldMatch := []
  deriving DecidableEq, Repr

/-- All that is logged. -/
structure Filter where
  directives : List Directive
  deriving DecidableEq, Repr

/-! ## Reading -/

/-- The number that decimal digits stand for, in front of which a plus sign may stand. -/
def number? (cs : List Char) : Option Nat :=
  let digits := match cs with
    | '+' :: rest => rest
    | _ => cs
  if digits.isEmpty || !digits.all Char.isDigit then none
  else some (digits.foldl (fun n c => n * 10 + (c.toNat - 48)) 0)

/-- The levels by name, the last one being a name for no level. -/
def verbosityNames : List (String × Nat) :=
  [("error", 1), ("warn", 2), ("info", 3), ("debug", 4), ("trace", 5), ("off", 0)]

/-- The verbosity of a name, in which case does not count, or of a number. -/
def verbosity? (cs : List Char) : Option Nat :=
  match number? cs with
  | some n => if n ≤ fullVerbosity then some n else none
  | none => verbosityNames.lookup (String.ofList (cs.map Char.toLower))

/-- What stands behind an equals sign; nothing stands for everything. -/
def levelPart? : List Char → Option Nat
  | [] => some fullVerbosity
  | cs => verbosity? cs

/-- What may stand behind the source and the span of a directive. -/
def tail? (d : Directive) : List Char → Option Directive
  | [] => some d
  | '=' :: level => (levelPart? level).map fun v => { d with verbosity := v }
  | _ => none

/-- A field, with or without a value. -/
def fieldMatch? (cs : List Char) : Option FieldMatch :=
  if cs.isEmpty then none
  else
    let name := cs.takeWhile (· ≠ '=')
    some ⟨String.ofList name, name.length < cs.length⟩

/-- The part of a directive in brackets: the name of a span, and fields in braces. -/
def spanPart? (d : Directive) (cs : List Char) : Option Directive :=
  let name := cs.takeWhile fun c => c ≠ ']' && c ≠ '\x7b'
  match cs.drop name.length with
  | ']' :: rest => tail? { d with span := some (String.ofList name) } rest
  | '\x7b' :: rest =>
    let field := rest.takeWhile (· ≠ '\x7d')
    match fieldMatch? field, rest.drop field.length with
    | some m, '\x7d' :: ']' :: rest =>
      let span := if name.isEmpty then none else some (String.ofList name)
      tail? { d with span := span, fields := [m] } rest
    | _, _ => none
  | _ => none

/-- Whether a directive may begin with the character. -/
def startsDirective (c : Char) : Bool :=
  c.isAlphanum || c = '-' || c = ':' || c = '_' || 127 < c.toNat

/-- Reads a directive.  A word by itself is a level if it can be one, and a source otherwise. -/
def Directive.parse? (cs : List Char) : Option Directive :=
  match cs with
  | [] => none
  | '[' :: rest => spanPart? ⟨fullVerbosity, none, none, []⟩ rest
  | c :: _ =>
    if !startsDirective c then none
    else
      let word := cs.takeWhile fun c => c ≠ '=' && c ≠ '['
      let d : Directive := { verbosity := fullVerbosity, source := some (String.ofList word) }
      match cs.drop word.length with
      | [] =>
        match verbosity? word with
        | some v => some { verbosity := v }
        | none => some d
      | '[' :: rest => spanPart? d rest
      | rest => tail? d rest

/-- Reads directives one after the other. -/
def readDirectives : List (List Char) → Option (List Directive)
  | [] => some []
  | cs :: rest => do
    let d ← Directive.parse? cs
    let ds ← readDirectives rest
    return d :: ds

/-- Reads a filter.  Between two commas nothing need stand. -/
def Filter.parse? (s : String) : Option Filter :=
  (readDirectives ((s.splitOn ",").filterMap fun part =>
    if part.isEmpty then none else some part.toList)).map (⟨·⟩)

/-! ## Meaning -/

namespace Directive

/-- Whether a directive looks at spans or at the values of fields. -/
def isDynamic (d : Directive) : Bool :=
  d.span.isSome || !d.fields.isEmpty

/-- Whether a directive can be decided by an event alone. -/
def isStatic (d : Directive) : Bool :=
  d.span.isNone && !d.fields.any (·.valued)

/-- Whether a directive applies to what a source tells. -/
def appliesToSource (d : Directive) (source : String) : Bool :=
  match d.source with
  | some start => start.toList.isPrefixOf source.toList
  | none => true

/-- Whether a directive applies to an event by itself. -/
def appliesTo (d : Directive) (source : String) (fieldNames : List String) : Bool :=
  d.appliesToSource source && d.fields.all fun f => fieldNames.contains f.name

/-- Whether a directive applies to what happens in a span.  Spans have no fields here. -/
def appliesToSpan (d : Directive) (s : Span) : Bool :=
  d.isDynamic && d.appliesToSource s.source && d.span.all (· = s.name) && d.fields.isEmpty

/-- How much a directive asks for: a longer source comes before a shorter one, and more fields
before fewer. -/
def weight (d : Directive) : Nat × Nat :=
  ((d.source.map fun s => s.utf8ByteSize + 1).getD 0, d.fields.length)

/-- Whether one directive is preferred to another one in front of it. -/
def beats (d e : Directive) : Bool :=
  e.weight.1 < d.weight.1 || (e.weight.1 = d.weight.1 && e.weight.2 ≤ d.weight.2)

end Directive

namespace Filter

/-- The most specific directive among those that apply, the last of several. -/
def best? : List Directive → Option Directive
  | [] => none
  | d :: rest =>
    match best? rest with
    | some e => if e.beats d then some e else some d
    | none => some d

/-- The verbosity for what a source tells, spans apart. -/
def staticVerbosity (f : Filter) (source : String) (fieldNames : List String) : Nat :=
  match best? (f.directives.filter fun d => d.isStatic && d.appliesTo source fieldNames) with
  | some d => d.verbosity
  | none => 0

/-- The verbosity for what happens in a span. -/
def spanVerbosity (f : Filter) (s : Span) : Nat :=
  ((f.directives.filter (·.appliesToSpan s)).map (·.verbosity)).foldl max 0

/-- The highest verbosity of all directives. -/
def maxVerbosity (f : Filter) : Nat :=
  if f.directives.any fun d => d.fields.any (·.valued) then fullVerbosity
  else (f.directives.map (·.verbosity)).foldl max 0

/-- Whether a span is noted.  Spans are noted like events that are worth telling. -/
def opens (f : Filter) (s : Span) : Bool :=
  Level.info.verbosity ≤ f.maxVerbosity &&
    (f.directives.any (·.appliesToSpan s) ||
      Level.info.verbosity ≤ f.staticVerbosity s.source [])

/-- The fields of an event by name; the message is one of them. -/
def fieldNames (e : Event) : List String := "message" :: e.fields.map (·.1)

/-- Whether an event is logged. -/
def shows (f : Filter) (r : Record) : Bool :=
  let needed := r.event.level.verbosity
  needed ≤ f.staticVerbosity r.event.source (fieldNames r.event) ||
    r.span.any fun s => f.opens s && needed ≤ f.spanVerbosity s

/-- A record as it is logged: spans that are not noted are left out. -/
def pass (f : Filter) (r : Record) : Option Record :=
  if f.shows r then some { r with span := r.span.filter f.opens } else none

end Filter

end StandIn.Log
