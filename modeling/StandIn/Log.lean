/-!
# Log events

What the stand-ins report while they run.  An event is a value here; when and how it is written
is decided by whoever runs them.

* `Log.Level` — how urgent an event is.
* `Log.Value` — the value of a field.
* `Log.Event` — a level, the part of the program that it comes from, fields and a message.
-/

namespace StandIn.Log

/-- How urgent an event is, the least urgent first. -/
inductive Level where
  | trace | debug | info | warn | error
  deriving DecidableEq, Repr

/-- The name of a level. -/
def Level.name : Level → String
  | trace => "TRACE"
  | debug => "DEBUG"
  | info => "INFO"
  | warn => "WARN"
  | error => "ERROR"

/-- The value of a field. -/
inductive Value where
  | text (s : String)
  | number (n : Nat)
  | bool (b : Bool)
  deriving DecidableEq, Repr

/-- Something worth telling.  `source` names the part of the program that tells it. -/
structure Event where
  level : Level
  source : String
  fields : List (String × Value) := []
  message : String
  deriving DecidableEq, Repr

end StandIn.Log
