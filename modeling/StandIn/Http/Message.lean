import StandIn.Http.Headers
import StandIn.Http.Uri

/-!
# Requests and responses

* `Version` — the versions of the protocol that are spoken.
* `Head`, `Request` — what is asked for, without and with a body.
* `Incoming` — a request whose body arrives in pieces, and may not arrive in full.
* `Incoming.collect` — the whole body.
* `Response` — what is answered.
-/

namespace StandIn.Http

/-- The versions of the protocol that are spoken. -/
inductive Version where
  | http10 | http11
  deriving DecidableEq, Repr

/-- The number of a version. -/
def Version.number : Version → String
  | http10 => "1.0"
  | http11 => "1.1"

/-- What is asked for. -/
structure Head where
  method : Method
  uri : Uri
  version : Version := .http11
  headers : Headers
  deriving DecidableEq, Repr

/-- What is asked for, with all that is sent along. -/
structure Request where
  head : Head
  body : Octets
  deriving DecidableEq, Repr

/-- A request as it arrives: the pieces of its body, and why no more came if that was not all. -/
structure Incoming where
  head : Head
  pieces : List Octets
  failure : Option String := none
  deriving DecidableEq, Repr

/-- The whole body, or why there is none. -/
def Incoming.collect (r : Incoming) : Except String Octets :=
  match r.failure with
  | none => .ok r.pieces.flatten
  | some reason => .error reason

/-- What is answered.  A body may break off behind the octets that came. -/
structure Response where
  status : Nat
  version : Version := .http11
  headers : Headers := .empty
  body : Octets := []
  brokenOff : Bool := false
  deriving DecidableEq, Repr

end StandIn.Http
