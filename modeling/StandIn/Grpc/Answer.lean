import StandIn.Grpc.Frame
import StandIn.Http.Percent

/-!
# Answers to calls

An answer is always a success as far as the transport goes; how the call ended stands in the fields
`grpc-status` and `grpc-message`.  They are sent behind the message if there is one, and otherwise
together with the header fields.

* `Answer` — header fields, body and trailing fields.
* `Answer.message` — a call that succeeded.
* `Answer.refusal` — a call that ended with another status.
-/

namespace StandIn.Grpc

/-- The field that tells the kind of the body. -/
def contentType : Http.FieldName := ⟨"content-type", by decide⟩

/-- The field that tells the code. -/
def grpcStatus : Http.FieldName := ⟨"grpc-status", by decide⟩

/-- The field that tells why a call failed. -/
def grpcMessage : Http.FieldName := ⟨"grpc-message", by decide⟩

/-- The field that tells how messages are compressed. -/
def grpcEncoding : Http.FieldName := ⟨"grpc-encoding", by decide⟩

/-- The field that tells what compression would be understood. -/
def grpcAcceptEncoding : Http.FieldName := ⟨"grpc-accept-encoding", by decide⟩

/-- The value of `content-type` in every call. -/
def callContent : Http.FieldValue := ⟨Utf8.encode "application/grpc", by decide⟩

/-- The value of `grpc-encoding` if nothing is compressed. -/
def identity : Http.FieldValue := ⟨Utf8.encode "identity", by decide⟩

/-- The status under which every answer is sent. -/
def httpStatus : Nat := 200

/-- An answer to a call. -/
structure Answer where
  headers : Http.Headers
  body : Octets := []
  trailers : Option Http.Headers := none
  deriving DecidableEq, Repr

/-- A status in header fields.  An empty message is left out. -/
def Status.fields (s : Status) : Http.Headers :=
  let code := Http.Headers.empty.add grpcStatus (.ofMessage (toString s.code.number))
  if s.message = "" then code else code.add grpcMessage (.ofMessage s.message)

namespace Answer

/-- The header fields of every answer. -/
def commonFields : Http.Headers :=
  Http.Headers.empty.add contentType callContent

/-- A call that succeeded with a message. -/
def message (payload : Octets) : Answer where
  headers := commonFields
  body := frame payload
  trailers := some (Status.fields ⟨.ok, ""⟩)

/-- A call that ended with a status.  `details` are further fields. -/
def refusal (s : Status) (details : Http.Headers := .empty) : Answer where
  headers := ⟨commonFields.fields ++ s.fields.fields ++ details.fields⟩

end Answer

end StandIn.Grpc
