import StandIn.Relay.Forward
import StandIn.Relay.Route

/-!
# Exchanges

What the relay does with a request: it takes in the whole body, observes it, answers the request by
itself or forwards it, and writes one line into the access log.  Whatever happens, the client gets
an answer.

* `Exchange` — what was answered, and everything that was done for it.
* `handle` — one request.
* `handleAll` — requests one after the other.
-/

namespace StandIn.Relay

open Http (Incoming Request Response Transport)

/-- The part of the program that handles exchanges. -/
def relaySource : String := "sched_doubles::interception::http_interceptor"

/-- An answer of the relay itself. -/
def localResponse (status : Nat) (body : Octets := []) : Response where
  status := status
  body := body

/-- The answer if the body of a request does not arrive. -/
def badRequest : Response := localResponse 400

/-- The answer if the target gives none. -/
def badGateway : Response := localResponse 502 (Utf8.encode "Bad Gateway")

/-- The target of a request as it is observed and logged: path and query. -/
def observedTarget (u : Http.Uri) : String :=
  u.pathAndQuery?.getD u.path

/-- The route of a request. -/
def routeOf (r : Http.Head) : Route :=
  Route.resolve r.method r.uri.path

/-- The event of a body that did not arrive. -/
def unreadEvent (reason : String) : Log.Event where
  level := .error
  source := relaySource
  message := s!"Failed to read request body: {reason}"

/-- The event of a request that could not be forwarded. -/
def unforwardedEvent (f : Failure) : Log.Event where
  level := .error
  source := relaySource
  message := f.message

/-- The line of an exchange in the access log. -/
def accessEvent (remote : Net.SocketAddress) (r : Http.Head) (status bytesIn : Nat) :
    Log.Event where
  level := .info
  source := "access"
  fields := [("remote", .text remote.render), ("method", .text r.method.name),
    ("uri", .text r.uri.render), ("route", .text (routeOf r).name), ("status", .number status),
    ("bytes_in", .number bytesIn)]
  message := "request"

/-- An answer, and everything that was done for it. -/
structure Exchange where
  response : Response
  deeds : List Deed
  deriving DecidableEq, Repr

/-- Answers a request that arrived in full. -/
def answer (t : Target) (transport : Transport) (earlier : List Request)
    (remote : Net.SocketAddress) (r : Request) : Exchange :=
  match (routeOf r.head).disposition with
  | .accept status => ⟨localResponse status, []⟩
  | .forward =>
    match t.forward transport earlier remote r with
    | (deeds, .ok response) => ⟨response, deeds⟩
    | (deeds, .error f) => ⟨badGateway, deeds ++ [.tell (unforwardedEvent f)]⟩

/-- Handles a request.  A body is observed before anything else happens to its request. -/
def handle (t : Target) (transport : Transport) (earlier : List Request)
    (remote : Net.SocketAddress) (r : Incoming) : Exchange :=
  match r.collect with
  | .error reason =>
    ⟨badRequest, [.tell (unreadEvent reason),
      .tell (accessEvent remote r.head badRequest.status 0)]⟩
  | .ok body =>
    let answered := answer t transport earlier remote ⟨r.head, body⟩
    ⟨answered.response,
      .observe (observe (observedTarget r.head.uri) body) :: answered.deeds ++
        [.tell (accessEvent remote r.head answered.response.status body.length)]⟩

/-- Handles requests one after the other. -/
def handleAll (t : Target) (transport : Transport) (earlier : List Request) :
    List (Net.SocketAddress × Incoming) → List Exchange
  | [] => []
  | (remote, r) :: rest =>
    let e := handle t transport earlier remote r
    e :: handleAll t transport (earlier ++ sent e.deeds) rest

/-! ## The listener -/

/-- The event of a relay that begins to listen. -/
def listeningEvent (address : Net.SocketAddress) (t : Target) : Log.Event where
  level := .info
  source := relaySource
  fields := [("addr", .text address.render), ("upstream", .text t.base.render)]
  message := "Intercepting proxy listening"

/-- The event of a client that connects. -/
def acceptedEvent (remote : Net.SocketAddress) : Log.Event where
  level := .debug
  source := relaySource
  fields := [("remote", .text remote.render)]
  message := "Accepted connection"

/-- The event of a relay that stopped. -/
def stoppedEvent : Log.Event where
  level := .info
  source := relaySource
  message := "Intercepting proxy stopped"

end StandIn.Relay
