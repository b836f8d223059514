import StandIn.Http.Message

/-!
# A client

* `ClientError` — why a request got no response.
* `Transport` — what becomes of requests that are sent, each depending on those before it.
* `Transport.unreachable` — a transport by which nobody can be reached.
* `Client.check` — the requests that can be sent at all.
-/

namespace StandIn.Http

/-- Why a request got no response. -/
inductive ClientError where
  /-- The identifier does not tell where the request should go. -/
  | relative
  /-- The method cannot be asked for in the version. -/
  | unsupportedMethod
  /-- No connection could be made. -/
  | connect (reason : String)
  /-- The connection gave no response. -/
  | exchange (reason : String)
  deriving DecidableEq, Repr

/-- The wording of an error with its causes. -/
def ClientError.message : ClientError → String
  | relative => "client error (UserAbsoluteUriRequired)"
  | unsupportedMethod => "client error (UserUnsupportedRequestMethod)"
  | connect reason => s!"client error (Connect): {reason}"
  | exchange reason => s!"client error (SendRequest): {reason}"

/-- What comes back for a request.  It may depend on all requests that were sent before, the first
one in front. -/
abbrev Transport := (earlier : List Request) → Request → Except ClientError Response

/-- A transport by which nobody can be reached. -/
def Transport.unreachable : Transport := fun _ _ =>
  .error (.connect "tcp connect error: Network is unreachable (os error 101)")

namespace Client

/-- The method that asks for a tunnel. -/
def connectMethod : Method := ⟨"CONNECT", by decide⟩

/-- Why a request cannot be sent.  It has to tell where it goes, but for a tunnel the authority is
enough. -/
def check (r : Head) : Option ClientError :=
  if r.version = .http10 ∧ r.method = connectMethod then some .unsupportedMethod
  else if r.uri.authority.isSome ∧ (r.uri.scheme.isSome ∨ r.method = connectMethod) then none
  else some .relative

end Client

end StandIn.Http
