import StandIn.Failure
import StandIn.Http.Uri.Parser

/-!
# The target of a relay

Requests that are not answered on the spot all go to one place.

* `Target` — a base identifier, and the name under which failures are reported.
* `Target.locate` — what a request asks for, moved onto the target: the path goes behind the path
  of the base, and both queries are kept.
-/

namespace StandIn.Relay

/-- Where requests are relayed to. -/
structure Target where
  name : String
  base : Http.Uri
  deriving DecidableEq, Repr

namespace Target

/-- The usual name of the target. -/
def defaultName : String := "diego-api"

/-- The text without the slashes at its end. -/
def trimSlashes (s : String) : String :=
  String.ofList (s.toList.reverse.dropWhile (· = '/')).reverse

/-- Both queries, that of the base first. -/
def joinQueries : (base own : Option String) → Option String
  | some base, some own => some (base ++ "&" ++ own)
  | some q, none | none, some q => some q
  | none, none => none

/-- Path and query on the target, as one text. -/
def pathAndQuery (t : Target) (u : Http.Uri) : String :=
  trimSlashes t.base.path ++ u.path ++ Http.Uri.querySuffix (joinQueries t.base.query u.query)

/-- A failure to relay to the target. -/
def failure (t : Target) (reason : String) : Failure :=
  .forward t.name reason

/-- What a request asks for, moved onto the target. -/
def locate (t : Target) (u : Http.Uri) : Except Failure Http.Uri :=
  match Http.Uri.ofParts t.base.scheme t.base.authority (t.pathAndQuery u) with
  | .ok located => .ok located
  | .error e => .error (t.failure e.message)

end Target

end StandIn.Relay
