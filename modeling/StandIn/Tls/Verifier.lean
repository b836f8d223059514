import StandIn.Certificate.Path

/-!
# Believing a server

The relay reaches the scheduler through addresses that its certificates do not name.  So a
certificate that names another server is no obstacle; everything else that can be wrong with it
is.

* `serverVerdict` — the full verdict on a server's certificates, its name included.
* `nameAgnosticVerdict` — the same with a wrong name excused.
* `verifyHandshake` — whether the server signed the handshake with its key.
-/

namespace StandIn.Tls

open Certificate

/-- Whether a server may be believed: its certificate can be read, a path leads to an anchor, and
it names the server. -/
def serverVerdict (anchors : List Anchor) (leaf : Octets) (sent : List Octets) (name : ServerName)
    (now : Instant) : Except Defect Unit := do
  let c ← Certificate.ofOctets leaf
  let _ ← verifyPath anchors c sent now serverPurpose
  isValidFor c name

/-- Why a certificate was accepted. -/
inductive Acceptance where
  | named
  /-- It names other servers only, and that was excused. -/
  | misnamed
  deriving DecidableEq, Repr

/-- Whether a server may be believed whatever it is called. -/
def nameAgnosticVerdict (anchors : List Anchor) (leaf : Octets) (sent : List Octets)
    (name : ServerName) (now : Instant) : Except Defect Acceptance :=
  match serverVerdict anchors leaf sent name now with
  | .ok () => .ok .named
  | .error .notValidForName => .ok .misnamed
  | .error d => .error d

/-- What a peer is told when it is not believed. -/
inductive Refusal where
  | certificate (complaint : Complaint)
  /-- It signed in a way that it was not offered. -/
  | unofferedScheme
  deriving DecidableEq, Repr

/-- The wording of a refusal. -/
def Refusal.message : Refusal → String
  | certificate c => c.message
  | unofferedScheme => "peer misbehaved: SignedHandshakeWithUnadvertisedSigScheme"

/-- The versions of the handshake. -/
inductive Version where
  | v12 | v13
  deriving DecidableEq, Repr

/-- The algorithms that a scheme stands for in a version.  The older one leaves the curve open. -/
def offered? (version : Version) (scheme : Nat) : Option (List Signature.Algorithm) :=
  match Signature.schemes.find? (·.number = scheme), version with
  | none, _ => none
  | some s, .v12 => some s.algorithms
  | some s, .v13 => if s.modern then some (s.algorithms.take 1) else none

/-- Whether the owner of a certificate signed the handshake. -/
def verifyHandshake (version : Version) (scheme : Nat) (leaf message signature : Octets) :
    Except Refusal Unit :=
  match offered? version scheme with
  | none => .error .unofferedScheme
  | some algorithms =>
    let verdict := do
      let c ← Certificate.ofOctets leaf
      verifyWithAny c.publicKey message signature algorithms
    match verdict with
    | .ok () => .ok ()
    | .error d => .error (.certificate d.complaint)

end StandIn.Tls
