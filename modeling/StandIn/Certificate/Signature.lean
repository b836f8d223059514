import StandIn.Certificate.Basic
import StandIn.Certificate.Search
import StandIn.Crypto.Ecdsa
import StandIn.Crypto.Ed25519
import StandIn.Crypto.Rsa

/-!
# Signatures on certificates and handshakes

* `Signature.Algorithm` — a kind of key together with a way to sign, with their encoded names.
* `Signature.supported` — the algorithms that are accepted on certificates.
* `verifyWith` — whether a signature was made with a key.
* `checkSigned` — whether a certificate was signed with a key.
* `Signature.Scheme` — what a peer may announce in a handshake, and `verifyHandshake`.
-/

namespace StandIn.Certificate

namespace Signature

/-- A kind of key together with a way to sign. -/
structure Algorithm where
  /-- The encoded name of the kind of key. -/
  keyName : Octets
  /-- The encoded name of the way to sign. -/
  name : Octets
  /-- Whether a signature belongs to a message, for the owner of a key. -/
  verify : (key message signature : Octets) → Bool

/-! ## Encoded names -/

/-- Keys on the curve over 256 bits. -/
def p256Key : Octets :=
  [0x06, 0x07, 0x2a, 0x86, 0x48, 0xce, 0x3d, 0x02, 0x01,
    0x06, 0x08, 0x2a, 0x86, 0x48, 0xce, 0x3d, 0x03, 0x01, 0x07]

/-- Keys on the curve over 384 bits. -/
def p384Key : Octets :=
  [0x06, 0x07, 0x2a, 0x86, 0x48, 0xce, 0x3d, 0x02, 0x01,
    0x06, 0x05, 0x2b, 0x81, 0x04, 0x00, 0x22]

/-- RSA keys. -/
def rsaKey : Octets :=
  [0x06, 0x09, 0x2a, 0x86, 0x48, 0x86, 0xf7, 0x0d, 0x01, 0x01, 0x01, 0x05, 0x00]

/-- Keys on the Edwards curve, and signatures with them. -/
def ed25519Name : Octets :=
  [0x06, 0x03, 0x2b, 0x65, 0x70]

/-- Signatures over prime curves; the last octet tells the hash function. -/
def ecdsaName (hash : UInt8) : Octets :=
  [0x06, 0x08, 0x2a, 0x86, 0x48, 0xce, 0x3d, 0x04, 0x03, hash]

/-- RSA signatures with the fixed padding; the last octet of the name tells the hash function. -/
def pkcs1Name (hash : UInt8) : Octets :=
  [0x06, 0x09, 0x2a, 0x86, 0x48, 0x86, 0xf7, 0x0d, 0x01, 0x01, hash, 0x05, 0x00]

/-- RSA signatures with the randomised padding, for a hash function and the size of its digest. -/
def pssName (hash size : UInt8) : Octets :=
  let sha2 : Octets := [0x30, 0x0d, 0x06, 0x09, 0x60, 0x86, 0x48, 0x01, 0x65, 0x03, 0x04, 0x02,
    hash, 0x05, 0x00]
  [0x06, 0x09, 0x2a, 0x86, 0x48, 0x86, 0xf7, 0x0d, 0x01, 0x01, 0x0a, 0x30, 0x34, 0xa0, 0x0f] ++
    sha2 ++
    [0xa1, 0x1c, 0x30, 0x1a, 0x06, 0x09, 0x2a, 0x86, 0x48, 0x86, 0xf7, 0x0d, 0x01, 0x01, 0x08] ++
    sha2 ++ [0xa2, 0x03, 0x02, 0x01, size]

/-! ## Algorithms -/

/-- Signatures on the curve over 256 bits. -/
def p256 (name : UInt8) (hash : Sha2) : Algorithm :=
  ⟨p256Key, ecdsaName name, Ecdsa.Curve.p256.verify hash⟩

/-- Signatures on the curve over 384 bits. -/
def p384 (name : UInt8) (hash : Sha2) : Algorithm :=
  ⟨p384Key, ecdsaName name, Ecdsa.Curve.p384.verify hash⟩

/-- RSA signatures with the fixed padding. -/
def pkcs1 (name : UInt8) (hash : Sha2) : Algorithm where
  keyName := rsaKey
  name := pkcs1Name name
  verify key message signature :=
    match Rsa.PublicKey.ofOctets? key with
    | some k => k.verifyPkcs1 hash message signature
    | none => false

/-- RSA signatures with the randomised padding. -/
def pss (name : UInt8) (hash : Sha2) : Algorithm where
  keyName := rsaKey
  name := pssName name hash.digestSize.toUInt8
  verify key message signature :=
    match Rsa.PublicKey.ofOctets? key with
    | some k => k.verifyPss hash message signature
    | none => false

/-- Signatures on the Edwards curve. -/
def ed25519 : Algorithm :=
  ⟨ed25519Name, ed25519Name, Ed25519.verify⟩

/-- The algorithms that are accepted on certificates, in the order in which they are tried. -/
def supported : List Algorithm :=
  [p256 2 .sha256, p256 3 .sha384, p384 2 .sha256, p384 3 .sha384, ed25519,
    pss 1 .sha256, pss 2 .sha384, pss 3 .sha512,
    pkcs1 11 .sha256, pkcs1 12 .sha384, pkcs1 13 .sha512]

end Signature

open Signature

/-- The kind and the octets of a public key. -/
def keyParts (publicKey : Octets) : Except Defect (Octets × Octets) :=
  whole .trailingData do
    let (kind, bs) ← orElse (Der.expect .sequence publicKey)
    let (key, rest) ← nested .bitString .trailingData (fun bits => do
      return (← orElse (Der.filledBits bits), [])) bs
    return ((kind, key), rest)

/-- Whether a signature was made with a key: the key has to be of the algorithm's kind. -/
def verifyWith (algorithm : Algorithm) (publicKey message signature : Octets) :
    Except Defect Unit := do
  let (kind, key) ← keyParts publicKey
  if algorithm.keyName ≠ kind then throw .unsupportedSignatureForKey
  if algorithm.verify key message signature then return () else throw .badSignature

/-- Tries the algorithms of one name; those that need another kind of key are passed over. -/
def verifyWithAny (publicKey message signature : Octets) : List Algorithm → Except Defect Unit
  | [] => .error .unsupportedSignatureForKey
  | a :: rest =>
    match verifyWith a publicKey message signature with
    | .error .unsupportedSignatureForKey => verifyWithAny publicKey message signature rest
    | result => result

/-- Whether a certificate was signed with a key. -/
def isSignedWith (publicKey : Octets) (c : Certificate) : Except Defect Unit :=
  match supported.filter (·.name = c.algorithm) with
  | [] => .error .unsupportedSignature
  | candidates => verifyWithAny publicKey c.signedPart c.signature candidates

/-- Checks that a certificate was signed with a key, for its price. -/
def checkSigned (publicKey : Octets) (c : Certificate) : Search Unit :=
  Search.paySignature.andThen fun _ => Search.ofExcept (isSignedWith publicKey c)

/-! ## Handshakes -/

/-- What a peer may announce as the way in which it signs a handshake. -/
structure Signature.Scheme where
  name : String
  number : Nat
  algorithms : List Algorithm
  /-- Whether the scheme may be used from version 1.3 on. -/
  modern : Bool

/-- The schemes that are accepted, the preferred one first. -/
def Signature.schemes : List Signature.Scheme := [
  ⟨"ECDSA_NISTP384_SHA384", 0x0503, [p384 3 .sha384, p256 3 .sha384], true⟩,
  ⟨"ECDSA_NISTP256_SHA256", 0x0403, [p256 2 .sha256, p384 2 .sha256], true⟩,
  ⟨"ED25519", 0x0807, [ed25519], true⟩,
  ⟨"RSA_PSS_SHA512", 0x0806, [pss 3 .sha512], true⟩,
  ⟨"RSA_PSS_SHA384", 0x0805, [pss 2 .sha384], true⟩,
  ⟨"RSA_PSS_SHA256", 0x0804, [pss 1 .sha256], true⟩,
  ⟨"RSA_PKCS1_SHA512", 0x0601, [pkcs1 13 .sha512], false⟩,
  ⟨"RSA_PKCS1_SHA384", 0x0501, [pkcs1 12 .sha384], false⟩,
  ⟨"RSA_PKCS1_SHA256", 0x0401, [pkcs1 11 .sha256], false⟩]

end StandIn.Certificate
