import StandIn.Json
import StandIn.Log

/-!
# Lines of a log

* `Record` — an event together with the span in which it was told.
* `Form` — the two forms of a log.
* `Record.text`, `Record.json` — a record as a line in either form.

Lines carry no time: whoever keeps them stamps them.
-/

namespace StandIn.Log

/-- A stretch of a run that events belong to.  `source` names the part of the program that opened
it. -/
structure Span where
  name : String
  source : String
  deriving DecidableEq, Repr

/-- An event, and the span in which it was told. -/
structure Record where
  span : Option Span := none
  event : Event
  deriving DecidableEq, Repr

/-- The form of a log. -/
inductive Form where
  | text | json
  deriving DecidableEq, Repr

/-- A value as it stands in a line of text. -/
def Value.render : Value → String
  | text s => s
  | number n => toString n
  | bool b => toString b

/-- A value in a document. -/
def Value.toJson : Value → Json
  | text s => .text s
  | number n => .number n
  | bool b => .bool b

/-- A record as a line for people. -/
def Record.text (r : Record) : String :=
  let place := match r.span with
    | some s => s!"{s.name}: "
    | none => ""
  let fields := r.event.fields.map fun (name, v) => s!" {name}={v.render}"
  s!"{r.event.level.name} {place}{r.event.source}: {r.event.message}" ++ String.join fields

/-- A record as a document for programs.  The span is given twice: by itself, and as the only one
of those that are open. -/
def Record.json (r : Record) : Json :=
  let span (s : Span) : Json := .object [("name", .text s.name)]
  .object <| [("level", .text r.event.level.name), ("message", .text r.event.message)] ++
    r.event.fields.map (fun (name, v) => (name, v.toJson)) ++
    [("target", .text r.event.source)] ++
    match r.span with
    | some s => [("span", span s), ("spans", .array [span s])]
    | none => []

/-- A record as a line. -/
def Record.line (f : Form) (r : Record) : String :=
  match f with
  | .text => r.text
  | .json => r.json.compact

end StandIn.Log
