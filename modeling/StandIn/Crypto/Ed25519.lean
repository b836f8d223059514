import StandIn.Crypto.Sha2

/-!
# Signatures over the twisted Edwards curve

* `Ed25519.Point` — a point in extended coordinates.
* `Ed25519.point?` — the point that 32 octets stand for.
* `Ed25519.publicKey` — the public key of a secret.
* `Ed25519.verify` — whether a signature belongs to a message.
-/

namespace StandIn.Ed25519

open Number

/-- The prime of the field. -/
def prime : Nat := Nat.pow 2 255 - 19

/-- The order of the base point. -/
def order : Nat := Nat.pow 2 252 + 27742317777372353535851937790883648493

/-- The constant of the curve `y² - x² = 1 + d x² y²`. -/
def d : Nat := (prime - 121665) * invMod prime 121666 % prime

/-- A square root of -1. -/
def rootOfMinusOne : Nat := powMod prime 2 ((prime - 1) / 4)

/-- A point: `x / z`, `y / z`, with `t = x y / z`. -/
structure Point where
  x : Nat
  y : Nat
  z : Nat
  t : Nat
  deriving Repr

/-- The neutral point. -/
def neutral : Point := ⟨0, 1, 1, 0⟩

/-- The sum of two points. -/
def add (a b : Point) : Point :=
  let p := prime
  let m := subMod p a.y a.x * subMod p b.y b.x % p
  let n := (a.y + a.x) * (b.y + b.x) % p
  let c := 2 * a.t * d * b.t % p
  let k := 2 * a.z * b.z % p
  let e := subMod p n m
  let f := subMod p k c
  let g := (k + c) % p
  let h := (n + m) % p
  ⟨e * f % p, g * h % p, f * g % p, e * h % p⟩

/-- A multiple of a point, by repeated doubling. -/
def multiply (k : Nat) (a : Point) : Point :=
  if k = 0 then neutral
  else
    let half := multiply (k / 2) a
    let twice := add half half
    if k % 2 = 0 then twice else add twice a
  termination_by k

/-- The point with the other sign of `x`. -/
def negate (a : Point) : Point :=
  ⟨(prime - a.x) % prime, a.y, a.z, (prime - a.t) % prime⟩

/-- The number whose octets these are, the lowest first. -/
def ofLittleEndian (bs : Octets) : Nat :=
  ofBigEndian bs.reverse

/-- A number whose square is `u / v`, if there is one. -/
def ratioRoot? (u v : Nat) : Option Nat :=
  let p := prime
  let w := u * invMod p v % p
  let r := powMod p w ((p + 3) / 8)
  if r * r % p = w then some r
  else
    let r' := r * rootOfMinusOne % p
    if r' * r' % p = w then some r' else none

/-- The point that 32 octets stand for: 255 bits of `y` below the lowest bit of `x`. -/
def point? (octets : Octets) : Option Point := do
  if octets.length ≠ 32 then none
  let n := ofLittleEndian octets
  let y := n % Nat.pow 2 255 % prime
  let x ← ratioRoot? (subMod prime (y * y % prime) 1) ((d * y % prime * y + 1) % prime)
  let x := if x % 2 = n / Nat.pow 2 255 then x else (prime - x) % prime
  return ⟨x, y, 1, x * y % prime⟩

/-- The octets of a point. -/
def encode (a : Point) : Octets :=
  let inverse := invMod prime a.z
  let x := a.x * inverse % prime
  let y := a.y * inverse % prime
  toLittleEndian 32 (y + x % 2 * Nat.pow 2 255)

/-- The base point, the one with `y = 4 / 5` and an even `x`. -/
def base : Point :=
  (point? (toLittleEndian 32 (4 * invMod prime 5 % prime))).getD neutral

/-- The public key of a secret of 32 octets. -/
def publicKey (secret : Octets) : Octets :=
  let n := ofLittleEndian ((Sha2.sha512.hash secret).take 32)
  encode (multiply (n % Nat.pow 2 254 / 8 * 8 + Nat.pow 2 254) base)

/-- Whether the signature belongs to the message, for the owner of the public key. -/
def verify (key message signature : Octets) : Bool :=
  let r := signature.take 32
  let s := ofLittleEndian (signature.drop 32)
  match point? key with
  | none => false
  | some a =>
    let h := ofLittleEndian (Sha2.sha512.hash (r ++ key ++ message)) % order
    signature.length = 64 && s < order &&
      encode (add (multiply s base) (multiply h (negate a))) == r

end StandIn.Ed25519
