import StandIn.Certificate.Defect
import StandIn.Der

/-!
# Certificates

* `Certificate` — the parts of a certificate that matter for a path; names, keys and extensions
  are kept in their encoded form until they are looked into.
* `Certificate.ofOctets` — reading a certificate.
* `Anchor` — a name and a key that are trusted, perhaps for some names only.
* `Anchor.ofOctets` — the anchor of a trusted certificate, which may also be one without version.
-/

namespace StandIn

/-- The parts of a certificate that matter for a path. -/
structure Certificate where
  /-- What is signed. -/
  signedPart : Octets
  /-- The algorithm of the signature. -/
  algorithm : Octets
  signature : Octets
  issuer : Octets
  validity : Octets
  subject : Octets
  /-- The subject's public key with its algorithm. -/
  publicKey : Octets
  keyUsage : Option Octets := none
  alternativeNames : Option Octets := none
  basicConstraints : Option Octets := none
  nameConstraints : Option Octets := none
  revocationLists : Option Octets := none
  purposes : Option Octets := none
  deriving DecidableEq, Repr

namespace Certificate

/-! ## Reading with reasons -/

/-- Gives a reader's failure a reason. -/
def orElse {α : Type} (r : Option α) (defect : Defect := .badEncoding) : Except Defect α :=
  match r with
  | some a => .ok a
  | none => .error defect

/-- A reader's result, if it left nothing. -/
def whole {α : Type} (defect : Defect) (r : Except Defect (α × Octets)) : Except Defect α :=
  match r with
  | .error e => .error e
  | .ok (a, []) => .ok a
  | .ok _ => .error defect

/-- Takes an item with the given tag, whose value `inner` has to read to its end. -/
def nested {α : Type} (tag : Der.Tag) (defect : Defect)
    (inner : Octets → Except Defect (α × Octets)) (bs : Octets) : Except Defect (α × Octets) := do
  let (value, rest) ← orElse (Der.expect tag bs) defect
  return (← whole defect (inner value), rest)

/-- Takes a truth value, which is false if there is none. -/
def boolean (bs : Octets) : Except Defect (Bool × Octets) :=
  if Der.isNext .boolean bs then
    nested .boolean .trailingData (fun value =>
      match value with
      | b :: rest =>
        if b = 0xFF then .ok (true, rest)
        else if b = 0x00 then .ok (false, rest)
        else .error .badEncoding
      | [] => .error .badEncoding) bs
  else .ok (false, bs)

/-- Takes a number of one octet. -/
def smallNumber (bs : Octets) : Except Defect (Nat × Octets) := do
  let (value, rest) ← orElse (Der.natural bs)
  match value with
  | [b] => return (b.toNat, rest)
  | _ => throw .badEncoding

/-! ## The parts of a certificate -/

/-- An extension: its name, whether it must be understood, and its value. -/
structure Extension where
  id : Octets
  critical : Bool
  value : Octets
  deriving Repr

/-- Takes the parts of an extension. -/
def extension (bs : Octets) : Except Defect (Extension × Octets) := do
  let (id, bs) ← orElse (Der.expect .oid bs)
  let (critical, bs) ← boolean bs
  let (value, rest) ← orElse (Der.expect .octetString bs)
  return (⟨id, critical, value⟩, rest)

/-- Notes a value that may be given only once. -/
def once {α : Type} (old : Option α) (new : Except Defect α) : Except Defect (Option α) :=
  match old with
  | some _ => .error .invalidExtension
  | none => new.map some

/-- The value of an extension that is a sequence. -/
def sequenceValue (e : Extension) : Except Defect Octets :=
  whole .badEncoding (orElse (Der.expect .sequence e.value))

/-- Notes an extension.  One that is not understood is an obstacle only if it is critical. -/
def note (c : Certificate) (e : Extension) : Except Defect Certificate :=
  match e.id with
  | [0x55, 0x1D, 15] => do
    return { c with keyUsage := ← once c.keyUsage (.ok e.value) }
  | [0x55, 0x1D, 17] => do
    return { c with alternativeNames := ← once c.alternativeNames (sequenceValue e) }
  | [0x55, 0x1D, 19] => do
    return { c with basicConstraints := ← once c.basicConstraints (sequenceValue e) }
  | [0x55, 0x1D, 30] => do
    return { c with nameConstraints := ← once c.nameConstraints (sequenceValue e) }
  | [0x55, 0x1D, 31] => do
    return { c with revocationLists := ← once c.revocationLists (sequenceValue e) }
  | [0x55, 0x1D, 37] => do
    return { c with purposes := ← once c.purposes (sequenceValue e) }
  | _ => if e.critical then .error .unsupportedCriticalExtension else .ok c

/-- Takes extensions, at least one, to the end of the input; `fuel` is at least their number. -/
def extensions (c : Certificate) : (fuel : Nat) → Octets → Except Defect Certificate
  | 0, _ => .error .trailingData
  | fuel + 1, bs => do
    let (c', rest) ← nested .sequence .trailingData (fun inner => do
      let (e, rest) ← extension inner
      return (← note c e, rest)) bs
    if rest.isEmpty then return c' else extensions c' fuel rest

/-- Takes the version, which has to be the third. -/
def version (bs : Octets) : Except Defect (Unit × Octets) :=
  nested .context0 .unsupportedVersion (fun inner => do
    let (n, rest) ← smallNumber inner
    if n = 2 then return ((), rest) else throw .unsupportedVersion) bs

/-- The outer parts: what is signed, with and without its tag, the algorithm and the signature. -/
def envelope (bs : Octets) : Except Defect (Octets × Octets × Octets × Octets) :=
  whole .trailingData <| nested .sequence .trailingData (fun inner => do
    let (body, afterBody) ← orElse (Der.expect .sequence inner)
    let (algorithm, afterAlgorithm) ← orElse (Der.expect .sequence afterBody)
    let (signature, rest) ← nested .bitString .trailingData (fun bits => do
      return (← orElse (Der.filledBits bits), [])) afterAlgorithm
    return ((inner.take (inner.length - afterBody.length), body, algorithm, signature), rest)) bs

/-- Takes the extensions that may end the signed part. -/
def optionalExtensions (c : Certificate) (bs : Octets) : Except Defect (Certificate × Octets) :=
  if bs.isEmpty then .ok (c, bs)
  else nested .context3 .trailingData (fun tagged =>
    nested .sequence .trailingData (fun list => do
      return (← extensions c list.length list, [])) tagged) bs

/-- The certificate that the octets encode. -/
def ofOctets (bs : Octets) : Except Defect Certificate := do
  let (signedPart, body, algorithm, signature) ← envelope bs
  whole .trailingData do
    let (_, bs) ← version body
    let (_, bs) ← orElse (Der.expect .integer bs)
    let (inner, bs) ← orElse (Der.expect .sequence bs)
    if inner ≠ algorithm then throw .signatureMismatch
    let (issuer, bs) ← orElse (Der.expect .sequence bs)
    let (validity, bs) ← orElse (Der.expect .sequence bs)
    let (subject, bs) ← orElse (Der.expect .sequence bs)
    let (publicKey, bs) ← orElse (Der.expect .sequence bs)
    optionalExtensions
      { signedPart, algorithm, signature, issuer, validity, subject, publicKey } bs

/-! ## Anchors -/

/-- A name and a key that are trusted. -/
structure Anchor where
  subject : Octets
  publicKey : Octets
  nameConstraints : Option Octets := none
  deriving DecidableEq, Repr

/-- The anchor of a certificate without version, which has no extensions either. -/
def Anchor.ofUnversioned (bs : Octets) : Except Defect Anchor :=
  whole .badEncoding <| nested .sequence .badEncoding (fun outer => do
    let (anchor, afterBody) ← nested .sequence .badEncoding (fun body => do
      let (_, bs) ← orElse (Der.expect .integer body)
      let (_, bs) ← orElse (Der.expect .sequence bs)
      let (_, bs) ← orElse (Der.expect .sequence bs)
      let (_, bs) ← orElse (Der.expect .sequence bs)
      let (subject, bs) ← orElse (Der.expect .sequence bs)
      let (publicKey, bs) ← orElse (Der.expect .sequence bs)
      return ({ subject, publicKey : Anchor }, bs)) outer
    let (_, bs) ← orElse (Der.expect .sequence afterBody)
    let (_, rest) ← orElse (Der.expect .bitString bs)
    return (anchor, rest)) bs

/-- The anchor of a trusted certificate. -/
def Anchor.ofOctets (bs : Octets) : Except Defect Anchor :=
  match Certificate.ofOctets bs with
  | .ok c => .ok ⟨c.subject, c.publicKey, c.nameConstraints⟩
  | .error .unsupportedVersion =>
    match Anchor.ofUnversioned bs with
    | .ok a => .ok a
    | .error _ => .error .badEncoding
  | .error e => .error e

end Certificate

end StandIn
