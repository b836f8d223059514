import StandIn.Certificate.Signature

/-!
# Private keys

* `PrivateKey` — a key in one of the three forms in which files hold them.
* `PrivateKey.isUsable` — whether the key can sign: RSA, a prime curve, or the Edwards curve, with
  all its parts in agreement.
-/

namespace StandIn.Tls

open Certificate.Signature Number

/-- The form of a private key. -/
inductive KeyForm where
  | pkcs1 | sec1 | pkcs8
  deriving DecidableEq, Repr

/-- A private key as a file holds it. -/
structure PrivateKey where
  form : KeyForm
  der : Octets
  deriving DecidableEq, Repr

namespace PrivateKey

/-- Takes a number of one octet. -/
def smallNumber (bs : Octets) : Option (Nat × Octets) := do
  let (value, rest) ← Der.natural bs
  match value with
  | [b] => some (b.toNat, rest)
  | _ => none

/-- Takes an item with the given tag that holds a string of bits. -/
def taggedBits (tag : Der.Tag) (bs : Octets) : Option (Octets × Octets) := do
  let (value, rest) ← Der.expect tag bs
  return (← Der.whole? (Der.wholeBits value), rest)

/-- The wrapping that tells the kind of a key.  From its second version on it also holds the
public key, which is taken only where `withPublic` allows that version. -/
def unwrap (kind : Octets) (withPublic : Bool) (der : Octets) :
    Option (Octets × Option Octets) := do
  let inner ← Der.whole? (Der.expect .sequence der)
  let (version, bs) ← smallNumber inner
  let (found, bs) ← Der.expect .sequence bs
  if found ≠ kind then none
  if 1 < version ∨ (version = 1 ∧ !withPublic) then none
  let (key, bs) ← Der.expect .octetString bs
  let bs ← if Der.isNext .context0 bs then (Der.expect .context0 bs).map (·.2) else some bs
  if version = 0 then
    if bs.isEmpty then some (key, none) else none
  else
    let publicKey ← Der.whole? (taggedBits .context1 bs)
    some (key, some publicKey)

/-! ## RSA -/

/-- Takes integers that are not negative, as many as told. -/
def naturals : (count : Nat) → Octets → Option (List Nat × Octets)
  | 0, bs => some ([], bs)
  | count + 1, bs => do
    let (value, bs) ← Der.natural bs
    let (later, rest) ← naturals count bs
    return (ofBigEndian value :: later, rest)

/-- Whether the parts of an RSA key agree.  The modulus has 2048 to 4096 bits, the public exponent
is 65537 or more, and both primes have half the bits of the modulus.  The inverse is looked at only
if it is that of the smaller prime; otherwise it is made anew. -/
def rsaPartsAgree (n e d p q dp dq inverse : Nat) : Bool :=
  let half := (bitLength n + 1) / 2
  let size := (bitLength n + 7) / 8
  256 ≤ size && bitLength n ≤ 4096 && n % 2 = 1 &&
    65537 ≤ e && e % 2 = 1 && bitLength e ≤ 33 &&
    bitLength p = half && bitLength q = half && p * q = n && p ≠ q &&
    half < bitLength d && d < n && d % 2 = 1 &&
    0 < dp && dp < p && dp % 2 = 1 && 0 < dq && dq < q && dq % 2 = 1 &&
    (p < q || (inverse < p && inverse * q % p = 1))

/-- Whether the octets are an RSA key that can sign. -/
def isRsa (der : Octets) : Bool :=
  let parts := do
    let inner ← Der.whole? (Der.expect .sequence der)
    let (version, bs) ← smallNumber inner
    if version ≠ 0 then none
    Der.whole? (naturals 8 bs)
  match parts with
  | some [n, e, d, p, q, dp, dq, inverse] => rsaPartsAgree n e d p q dp dq inverse
  | _ => false

/-! ## Prime curves -/

/-- Whether the octets are a key on the curve: a secret between 0 and the order, and the public key
that belongs to it.  `name` is the encoded name of the curve, which may be told again. -/
def isCurveSecret (curve : Ecdsa.Curve) (name : Octets) (der : Octets) : Bool :=
  let parts := do
    let inner ← Der.whole? (Der.expect .sequence der)
    let (version, bs) ← smallNumber inner
    if version ≠ 1 then none
    let (secret, bs) ← Der.expect .octetString bs
    let bs ←
      if Der.isNext .context0 bs then do
        let (found, bs) ← Der.expect .context0 bs
        if found = name then some bs else none
      else some bs
    let publicKey ← Der.whole? (taggedBits .context1 bs)
    return (secret, publicKey)
  match parts with
  | none => false
  | some (secret, publicKey) =>
    let k := ofBigEndian secret
    secret.length = curve.size && 0 < k && k < curve.order &&
      curve.publicKey? k == some publicKey

/-- Whether the key is one on the given curve. -/
def isCurveKey (curve : Ecdsa.Curve) (kind : Octets) (k : PrivateKey) : Bool :=
  let name := kind.drop 9
  match k.form with
  | .sec1 => isCurveSecret curve name k.der
  | .pkcs8 =>
    match unwrap kind false k.der with
    | some (secret, _) => isCurveSecret curve name secret
    | none => false
  | .pkcs1 => false

/-! ## The Edwards curve -/

/-- Whether the octets are a key on the Edwards curve. -/
def isEd25519 (der : Octets) : Bool :=
  match unwrap ed25519Name true der with
  | none => false
  | some (wrapped, publicKey) =>
    match Der.whole? (Der.expect .octetString wrapped) with
    | none => false
    | some secret =>
      secret.length = 32 && publicKey.all (· == Ed25519.publicKey secret)

/-- Whether the key can sign. -/
def isUsable (k : PrivateKey) : Bool :=
  let rsa := match k.form with
    | .pkcs1 => isRsa k.der
    | .pkcs8 =>
      match unwrap rsaKey false k.der with
      | some (key, _) => isRsa key
      | none => false
    | .sec1 => false
  rsa || isCurveKey .p256 p256Key k || isCurveKey .p384 p384Key k ||
    (k.form = .pkcs8 && isEd25519 k.der)

end PrivateKey

end StandIn.Tls
