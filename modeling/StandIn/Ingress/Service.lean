import StandIn.Grpc.Answer
import StandIn.Ingress.Call
import StandIn.Net.Address

/-!
# The ingress service

The two ways in which clients send telemetry: one batch at a time, each acknowledged, or a stream
of batches in a call that stays open.  Nothing that is sent is kept, and no answer tells anything
of it.

* `Operation` — the two ways, and the paths on which they are offered.
* `Outcome` — an answer, or none as long as a call is open, and what is logged.
* `serve` — what becomes of a call.
-/

namespace StandIn.Ingress

open Grpc (Answer Arrivals Body Status)

/-- What clients may call. -/
inductive Operation where
  | send | batchSender
  deriving DecidableEq, Repr

/-- The path of an operation. -/
def Operation.path : Operation → String
  | send => "/loggregator.v2.Ingress/Send"
  | batchSender => "/loggregator.v2.Ingress/BatchSender"

/-- The operation that is offered on a path. -/
def Operation.ofPath? (path : String) : Option Operation :=
  [send, batchSender].find? (·.path = path)

/-- What became of a call. -/
structure Outcome where
  /-- No answer is given as long as the call is open. -/
  answer : Option Answer
  log : List Log.Event := []
  deriving DecidableEq, Repr

/-- Reads a batch. -/
def readBatch (payload : Octets) : Except Status EnvelopeBatch :=
  match EnvelopeBatch.codec.decode payload with
  | .ok b => .ok b
  | .error e => .error ⟨.internal, e.message⟩

/-- The acknowledgement of what was sent. -/
def acknowledge (o : Operation) : Answer :=
  let name := match o with
    | .send => "SendResponse"
    | .batchSender => "BatchSenderResponse"
  .message ((Acknowledgement.codec name).encode {})

/-- A call without a message. -/
def missingMessage : Status :=
  ⟨.internal, "Missing request message."⟩

/-- A single batch is acknowledged once the client has finished without an error.  More than one
message is no error. -/
def sendAnswer (a : Arrivals EnvelopeBatch) : Option Answer :=
  match a.ending with
  | .pending => none
  | .failed s => some (.refusal s)
  | .finished => some (if a.messages.isEmpty then .refusal missingMessage else acknowledge .send)

/-- A streaming call after all that has arrived. -/
def Call.ofArrivals (a : Arrivals EnvelopeBatch) : Call :=
  let c := a.messages.foldl (fun c b => c.send (.batch b)) {}
  match a.ending with
  | .pending => c
  | .finished => c.finish
  | .failed s => c.send (.error s.code)

/-- The client of a call as it is logged. -/
def peerText : Option Net.SocketAddress → String
  | some a => s!"Some({a.render})"
  | none => "None"

/-- The event of a stream that begins. -/
def streamOpened (peer : Option Net.SocketAddress) : Log.Event where
  level := .debug
  source := serverSource
  fields := [("peer", .text (peerText peer))]
  message := "BatchSender stream opened"

/-- The event of a stream that broke. -/
def streamEnded (peer : Option Net.SocketAddress) (code : Grpc.Code) : Log.Event where
  level := .debug
  source := serverSource
  fields := [("peer", .text (peerText peer)), ("code", .text code.name)]
  message := "BatchSender stream ended"

/-- A stream is acknowledged when it breaks, and until then held open. -/
def streamOutcome (peer : Option Net.SocketAddress) (a : Arrivals EnvelopeBatch) : Outcome :=
  let (c, told) := (Call.ofArrivals a).poll
  match c.code? with
  | some code =>
    { answer := some (acknowledge .batchSender)
      log := streamOpened peer :: told ++ [streamEnded peer code] }
  | none => { answer := none, log := streamOpened peer :: told }

/-- How the messages of a call are compressed, if they are.  Only the first value of visible text
is considered. -/
def compression? (headers : Http.Headers) : Option String := do
  let v ← headers.get? Grpc.grpcEncoding
  let name ← v.visible? >>= Utf8.decode?
  if v = Grpc.identity then none else some name

/-- The refusal of a compressed call. -/
def compressionRefusal (name : String) : Answer :=
  .refusal ⟨.unimplemented, s!"Content is compressed with \x60{name}\x60 which isn't supported"⟩
    (Http.Headers.empty.add Grpc.grpcAcceptEncoding Grpc.identity)

/-- What becomes of a call of a client.  What is not offered is refused before anything else, and
compressed calls before their body is looked at. -/
def serve (peer : Option Net.SocketAddress) (path : String) (headers : Http.Headers)
    (body : Body) : Outcome :=
  match Operation.ofPath? path with
  | none => { answer := some (.refusal ⟨.unimplemented, ""⟩) }
  | some o =>
    match compression? headers with
    | some name => { answer := some (compressionRefusal name) }
    | none =>
      let a := Grpc.receive readBatch body
      match o with
      | .send => { answer := sendAnswer a }
      | .batchSender => streamOutcome peer a

end StandIn.Ingress
