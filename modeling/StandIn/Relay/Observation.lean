import StandIn.Log
import StandIn.Task
import StandIn.Relay.Route

/-!
# Observing bodies

Every body that arrives in full is looked at once before anything else happens to its request.
Looking never changes the request: what cannot be read is reported, and that is all.

* `Observation` — what was seen.
* `observe` — submissions of encoded tasks are shown as JSON, all other bodies as text.
* `Observation.event` — the observation as it is logged.
-/

namespace StandIn.Relay

/-- What was seen of a body. -/
inductive Seen where
  /-- An encoded task request, as JSON. -/
  | decoded (json : String)
  /-- What should have been an encoded task request, and why it is none. -/
  | failed (error : Wire.DecodeError)
  /-- Any other body. -/
  | raw (text : String)
  deriving DecidableEq, Repr

/-- What was seen of a body, and on which target. -/
structure Observation where
  target : String
  seen : Seen
  deriving DecidableEq, Repr

/-- The wording of a failed observation. -/
def decodeFailure (e : Wire.DecodeError) : String :=
  "failed to decode desire task request: " ++ e.message

/-- The task request that the body encodes, as JSON. -/
def decodeDesireTask (body : Octets) : Except Wire.DecodeError String :=
  (DesireTaskRequest.codec.decode body).map fun r => r.toJson.compact

/-- Looks at a body.  Only a target without a query is taken for the submission of an encoded
task. -/
def observe (target : String) (body : Octets) : Observation where
  target := target
  seen :=
    if target = desireTaskPath then
      match decodeDesireTask body with
      | .ok json => .decoded json
      | .error e => .failed e
    else .raw (Utf8.lossy body)

/-- The text of an observation. -/
def Seen.text : Seen → String
  | decoded json => json
  | failed e => decodeFailure e
  | raw text => text

/-- The part of the program that observes bodies. -/
def observerSource : String := "sched_doubles::interception::body_hook"

/-- The observation as it is logged. -/
def Observation.event (o : Observation) : Log.Event :=
  match o.seen with
  | .decoded json =>
    { level := .info, source := "intercept::desire_task",
      fields := [("uri", .text o.target), ("request", .text json)],
      message := "Desire task request" }
  | .failed e =>
    { level := .error, source := observerSource,
      fields := [("uri", .text o.target), ("error", .text (decodeFailure e))],
      message := "Failed to inspect intercepted body" }
  | .raw text =>
    { level := .debug, source := observerSource,
      fields := [("uri", .text o.target), ("body", .text text)],
      message := "Intercepted request body" }

end StandIn.Relay
