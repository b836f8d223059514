import StandIn.Grpc.Status
import StandIn.Log
import StandIn.Telemetry

/-!
# Streaming calls

A client that streams batches holds a call open.  The ingress takes the batches in and drops them,
and never ends the call by itself: not for any batch, and not because the client has finished.
Only an error on the way from the client ends it.

* `Item` — what a client may send.
* `Call` — a call with what has been sent and not yet been looked at.
* `Call.send`, `Call.finish` — what the client does.
* `Call.poll` — what the ingress does.
-/

namespace StandIn.Ingress

/-- What arrives from a client. -/
inductive Item where
  | batch (b : EnvelopeBatch)
  /-- The stream broke. -/
  | error (code : Grpc.Code)
  deriving DecidableEq, Repr

/-- How far a call has come. -/
inductive Progress where
  /-- The client may send more. -/
  | reading
  /-- The client has finished, and the call is held open. -/
  | holding
  | ended (code : Grpc.Code)
  deriving DecidableEq, Repr

/-- A call of a client that streams batches. -/
structure Call where
  /-- What has been sent and not yet been looked at, the oldest first. -/
  waiting : List Item := []
  /-- Whether the client has finished. -/
  finished : Bool := false
  progress : Progress := .reading
  deriving DecidableEq, Repr

/-- The part of the program that handles calls. -/
def serverSource : String := "sched_doubles::ingress::server"

/-- The event of a call that is held open. -/
def heldOpen : Log.Event where
  level := .debug
  source := serverSource
  message := "BatchSender client finished sending, holding call open"

namespace Call

/-- The client sends an item.  After the end of its stream nothing arrives. -/
def send (c : Call) (i : Item) : Call :=
  if c.finished then c else { c with waiting := c.waiting ++ [i] }

/-- The client finishes its stream. -/
def finish (c : Call) : Call :=
  { c with finished := true }

/-- The code of the first error among the items. -/
def firstError? : List Item → Option Grpc.Code
  | [] => none
  | .batch _ :: items => firstError? items
  | .error code :: _ => some code

/-- The ingress looks at everything that is waiting.  It tells at most once, of a call that it
begins to hold open. -/
def poll (c : Call) : Call × List Log.Event :=
  match c.progress with
  | .reading =>
    match firstError? c.waiting with
    | some code => ({ c with waiting := [], progress := .ended code }, [])
    | none =>
      if c.finished then ({ c with waiting := [], progress := .holding }, [heldOpen])
      else ({ c with waiting := [] }, [])
  | .holding | .ended _ => (c, [])

/-- The code that a call ended with. -/
def code? (c : Call) : Option Grpc.Code :=
  match c.progress with
  | .ended code => some code
  | .reading | .holding => none

end Call

end StandIn.Ingress
