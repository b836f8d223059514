import StandIn.Http.Client
import StandIn.Http.HopByHop
import StandIn.Log
import StandIn.Relay.Observation
import StandIn.Relay.Target
import StandIn.Text.Utf8

/-!
# Forwarding

A request that is forwarded keeps its method and body.  What it asks for is moved onto the target;
of its header fields those go on that are not for one hop, and the client's address is put at the
end of `X-Forwarded-For`.

* `Deed` — what the relay does, in the order in which it does it.
* `appendClient` — the client's address behind the first value that is already there.
* `Target.prepare` — the request as it is sent on.
* `Target.forward` — sends it on, and tells what came back.
-/

namespace StandIn.Relay

open Http (FieldName FieldValue Headers Transport Request Response)

/-- The field that tells through whom a request came. -/
def forwardedFor : FieldName := ⟨"x-forwarded-for", by decide⟩

/-- The value of `X-Forwarded-For` with one more address.  Only the first value counts, and only
if it is visible text. -/
def forwardedValue (h : Headers) (client : Net.Address) : Octets :=
  let address := Utf8.encode client.render
  match (h.get? forwardedFor).bind FieldValue.visible? with
  | some earlier => earlier ++ Utf8.encode ", " ++ address
  | none => address

/-- The fields with the client's address at the end of `X-Forwarded-For`. -/
def appendClient (h : Headers) (client : Net.Address) : Headers :=
  match FieldValue.ofOctets? (forwardedValue h client) with
  | some v => h.set forwardedFor v
  | none => h

namespace Target

/-- The request as it is sent to the target. -/
def prepare (t : Target) (remote : Net.SocketAddress) (r : Request) : Except Failure Request :=
  (t.locate r.head.uri).map fun uri =>
    { r with head := { r.head with
        uri := uri
        headers := appendClient r.head.headers.endToEnd remote.address } }

/-- The event of a request that is sent on. -/
def forwardingEvent (t : Target) (uri : Http.Uri) : Log.Event where
  level := .debug
  source := "sched_doubles::interception::forwarder"
  fields := [("target", .text t.name), ("uri", .text uri.render)]
  message := "Forwarding request"

end Target

/-- Something that the relay does. -/
inductive Deed where
  | observe (o : Observation)
  /-- A request is handed to the target. -/
  | send (r : Request)
  | tell (e : Log.Event)
  deriving DecidableEq, Repr

/-- The requests that were handed to the target. -/
def sent (deeds : List Deed) : List Request :=
  deeds.filterMap fun
    | .send r => some r
    | _ => none

/-- Forwards a request, and tells what came back.  `earlier` are the requests that the target has
already got. -/
def Target.forward (t : Target) (transport : Transport) (earlier : List Request)
    (remote : Net.SocketAddress) (r : Request) : List Deed × Except Failure Response :=
  match t.prepare remote r with
  | .error f => ([], .error f)
  | .ok r =>
    let told := Deed.tell (t.forwardingEvent r.head.uri)
    match Http.Client.check r.head with
    | some e => ([told], .error (t.failure e.message))
    | none =>
      ([told, .send r],
        match transport earlier r with
        | .error e => .error (t.failure e.message)
        | .ok response => .ok { response with headers := response.headers.endToEnd })

end StandIn.Relay
