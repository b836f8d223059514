import StandIn.Http.Method

/-!
# Routes

The relay knows a closed set of routes, told apart by method and path alone.

* `Route.resolve` — the route of a request.
* `Route.disposition` — whether the relay answers by itself or asks the scheduler.
-/

namespace StandIn.Relay

/-- The path on which tasks are submitted and answered at once. -/
def submitTaskPath : String := "/v1/tasks"

/-- The path on which encoded task requests are submitted. -/
def desireTaskPath : String := "/v1/tasks/desire.r2"

/-- Where a request belongs. -/
inductive Route where
  | submitTask | desireTask | catchAll
  deriving DecidableEq, Repr

/-- What is done with a request. -/
inductive Disposition where
  /-- It is answered with the status, and goes nowhere. -/
  | accept (status : Nat)
  /-- It is handed to the scheduler. -/
  | forward
  deriving DecidableEq, Repr

namespace Route

/-- The route of a request.  The query is no part of it. -/
def resolve (method : Http.Method) (path : String) : Route :=
  if method = .post ∧ path = submitTaskPath then submitTask
  else if method = .post ∧ path = desireTaskPath then desireTask
  else catchAll

/-- What is done with the requests of a route. -/
def disposition : Route → Disposition
  | submitTask => .accept 202
  | desireTask | catchAll => .forward

/-- The name of a route in the log. -/
def name : Route → String
  | submitTask => "submit_task"
  | desireTask => "desire_task"
  | catchAll => "catch_all"

end Route

end StandIn.Relay
