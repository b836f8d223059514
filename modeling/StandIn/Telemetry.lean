import StandIn.Wire.Codec

/-!
# Telemetry

What agents send to the ingress.  Only the head of an envelope is declared: the ingress takes
batches and never looks at what is in them, so whatever an envelope carries is passed over.

* `Envelope`, `EnvelopeBatch` — what is sent.
* `Acknowledgement` — the empty answer to both ways of sending.
-/

namespace StandIn

open Wire

/-- One item of telemetry. -/
structure Envelope where
  timestamp : Int64 := 0
  sourceId : String := ""
  instanceId : String := ""
  tags : Dictionary := .empty
  deriving DecidableEq, Repr, Inhabited

/-- Items that are sent together. -/
structure EnvelopeBatch where
  batch : List Envelope := []
  deriving DecidableEq, Repr, Inhabited

/-- An answer that says nothing but that something arrived. -/
structure Acknowledgement where
  deriving DecidableEq, Repr, Inhabited

/-- The encoded form of an envelope. -/
def Envelope.codec : Codec Envelope where
  name := "Envelope"
  empty := {}
  fields := [
    .scalar 1 "timestamp" .int64 (·.timestamp) fun m x => { m with timestamp := x },
    .scalar 2 "source_id" .text (·.sourceId) fun m x => { m with sourceId := x },
    .scalar 8 "instance_id" .text (·.instanceId) fun m x => { m with instanceId := x },
    .dictionary 9 "tags" (·.tags) fun m x => { m with tags := x }]

/-- The encoded form of a batch. -/
def EnvelopeBatch.codec : Codec EnvelopeBatch where
  name := "EnvelopeBatch"
  empty := {}
  fields := [.messages 1 "batch" Envelope.codec (·.batch) fun m x => { m with batch := x }]

/-- The encoded form of an acknowledgement, which has no fields.  `name` is that of the call. -/
def Acknowledgement.codec (name : String) : Codec Acknowledgement where
  name := name
  empty := {}
  fields := []

end StandIn
