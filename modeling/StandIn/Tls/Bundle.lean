import StandIn.Failure
import StandIn.Files
import StandIn.Log
import StandIn.Pem
import StandIn.Tls.PrivateKey
import StandIn.Tls.Verifier

/-!
# Certificate bundles

What each stand-in owns: the chain of certificates that it presents, its private key, and the
authorities that it trusts.  A bundle is loaded once, when a stand-in starts.

* `Paths`, `Bundle` — the three files, and what they hold.
* `Bundle.load` — reads all three files before it looks into any of them.
* `Bundle.anchors` — the authorities as anchors of paths.
* `clientTls` — what the relay needs to be a client of the scheduler.
* `serverTls` — what the ingress needs to be a server; it reads the files' texts on its own.
-/

namespace StandIn.Tls

open Certificate

/-- Where a bundle's files are. -/
structure Paths where
  cert : String
  key : String
  ca : String
  deriving DecidableEq, Repr

/-- What a bundle's files hold. -/
structure Bundle where
  certPem : Octets
  keyPem : Octets
  caPem : Octets
  chain : List Octets
  key : PrivateKey
  authorities : List Octets
  deriving DecidableEq, Repr

/-! ## Reading PEM -/

/-- The certificates among sections, unless there is a fault. -/
def certificates : List (Except Pem.Fault Pem.Section) → Except Pem.Fault (List Octets)
  | [] => .ok []
  | .error f :: _ => .error f
  | .ok s :: rest =>
    if s.kind = .certificate then (certificates rest).map (s.content :: ·) else certificates rest

/-- The form of the key in a section, if it is a key's. -/
def keyForm? : Pem.Kind → Option KeyForm
  | .rsaKey => some .pkcs1
  | .ecKey => some .sec1
  | .pkcs8Key => some .pkcs8
  | _ => none

/-- The first private key among sections, unless there is a fault in front of it. -/
def firstKey : List (Except Pem.Fault Pem.Section) → Except Pem.Fault (Option PrivateKey)
  | [] => .ok none
  | .error f :: _ => .error f
  | .ok s :: rest =>
    match keyForm? s.kind with
    | some form => .ok (some ⟨form, s.content⟩)
    | none => firstKey rest

/-- The certificates of a file; there has to be one. -/
def readCertificates (path : String) (pem : Octets) : Except Failure (List Octets) :=
  match certificates (Pem.sections pem) with
  | .error f => .error (.malformedCertificate path f.message)
  | .ok [] => .error (.malformedCertificate path "no certificates found")
  | .ok certs => .ok certs

/-- The key of a file. -/
def readKey (path : String) (pem : Octets) : Except Failure PrivateKey :=
  match firstKey (Pem.sections pem) with
  | .error f => .error (.malformedCertificate path f.message)
  | .ok none => .error (.malformedCertificate path "no private key found")
  | .ok (some key) => .ok key

/-- The contents of a bundle's file. -/
def readFile (files : Files) (path : String) : Except Failure Octets :=
  match files path with
  | .ok bs => .ok bs
  | .error cause => .error (.unreadableCertificate path cause)

namespace Bundle

/-- Loads a bundle: all files are read before any is looked into. -/
def load (files : Files) (paths : Paths) : Except Failure Bundle := do
  let certPem ← readFile files paths.cert
  let keyPem ← readFile files paths.key
  let caPem ← readFile files paths.ca
  let chain ← readCertificates paths.cert certPem
  let key ← readKey paths.key keyPem
  let authorities ← readCertificates paths.ca caPem
  return { certPem, keyPem, caPem, chain, key, authorities }

/-- What is told of a bundle that was loaded. -/
def loadedEvent (b : Bundle) (paths : Paths) : Log.Event where
  level := .debug
  source := "sched_doubles::utils::certs"
  fields := [("cert", .text (Quoted.quote paths.cert)), ("chain_len", .number b.chain.length),
    ("ca_count", .number b.authorities.length)]
  message := "Loaded certificate bundle"

/-- The anchors of the authorities, all of which have to be certificates. -/
def anchorsOf : List Octets → Except Failure (List Anchor)
  | [] => .ok []
  | der :: rest =>
    match Anchor.ofOctets der with
    | .error d => .error (.tls d.complaint.message)
    | .ok a => (anchorsOf rest).map (a :: ·)

/-- The authorities as anchors of paths. -/
def anchors (b : Bundle) : Except Failure (List Anchor) :=
  anchorsOf b.authorities

end Bundle

/-! ## Using a bundle -/

/-- What is wrong with a key that cannot sign. -/
def unusableKey : String :=
  "unexpected error: failed to parse private key as RSA, ECDSA, or EdDSA"

/-- What the relay needs to be a client of the scheduler. -/
structure ClientTls where
  anchors : List Anchor
  chain : List Octets
  key : PrivateKey
  deriving DecidableEq, Repr

/-- The settings of a client that presents the bundle's certificates and trusts its
authorities. -/
def clientTls (b : Bundle) : Except Failure ClientTls := do
  let anchors ← b.anchors
  if b.key.isUsable then return ⟨anchors, b.chain, b.key⟩
  else throw (.tls unusableKey)

/-- What the ingress needs to be a server. -/
structure ServerTls where
  chain : List Octets
  key : PrivateKey
  authorities : List Octets
  deriving DecidableEq, Repr

/-- The key that a server takes from a file: the first one, if there is no fault in front of it. -/
def serverKey? (pem : Octets) : Option PrivateKey :=
  (firstKey (Pem.sections pem)).toOption.join

/-- The settings of a server that presents a bundle's certificates and verifies those of clients,
which need not have any.  What is wrong with them is only told as a cause. -/
def serverTls (certPem keyPem caPem : Octets) : Except Failure ServerTls :=
  let refused (cause : String) : Except Failure ServerTls :=
    .error (.transport "transport error" [cause])
  match (certificates (Pem.sections caPem)).toOption with
  | none => refused certificateCause
  | some authorities =>
    match Bundle.anchorsOf authorities with
    | .error _ => refused certificateCause
    | .ok [] => refused "no root trust anchors were provided"
    | .ok _ =>
      match (certificates (Pem.sections certPem)).toOption, serverKey? keyPem with
      | none, _ => refused certificateCause
      | _, none => refused "Error parsing TLS private key - no RSA or PKCS8-encoded keys found."
      | some chain, some key =>
        if key.isUsable then .ok ⟨chain, key, authorities⟩ else refused unusableKey
where
  /-- The cause if a certificate cannot be read. -/
  certificateCause : String := "Error parsing TLS certificate."

end StandIn.Tls
