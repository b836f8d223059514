import StandIn.Crypto.Sha2
import StandIn.Der

/-!
# Signatures over prime curves

* `Ecdsa.Curve` — a curve `y² = x³ - 3x + b` over a prime field: `Curve.p256`, `Curve.p384`.
* `Ecdsa.Point` — a point in Jacobian coordinates; the third is 0 at infinity.
* `Curve.point?` — a public key, in its uncompressed form only.
* `Curve.verify` — whether a signature belongs to a message.
-/

namespace StandIn.Ecdsa

open Number

/-- A curve `y² = x³ - 3x + b` modulo `p` with a generator of prime order.  `size` is the number
of octets of a coordinate. -/
structure Curve where
  p : Nat
  b : Nat
  order : Nat
  gx : Nat
  gy : Nat
  size : Nat

/-- The curve over a field of 256 bits. -/
def Curve.p256 : Curve where
  p := 0xffffffff00000001000000000000000000000000ffffffffffffffffffffffff
  b := 0x5ac635d8aa3a93e7b3ebbd55769886bc651d06b0cc53b0f63bce3c3e27d2604b
  order := 0xffffffff00000000ffffffffffffffffbce6faada7179e84f3b9cac2fc632551
  gx := 0x6b17d1f2e12c4247f8bce6e563a440f277037d812deb33a0f4a13945d898c296
  gy := 0x4fe342e2fe1a7f9b8ee7eb4a7c0f9e162bce33576b315ececbb6406837bf51f5
  size := 32

/-- The curve over a field of 384 bits. -/
def Curve.p384 : Curve where
  p := 0xfffffffffffffffffffffffffffffffffffffffffffffffffffffffffffffffeffffffff0000000000000000ffffffff
  b := 0xb3312fa7e23ee7e4988e056be3f82d19181d9c6efe8141120314088f5013875ac656398d8a2ed19d2a85c8edd3ec2aef
  order := 0xffffffffffffffffffffffffffffffffffffffffffffffffc7634d81f4372ddf581a0db248b0a77aecec196accc52973
  gx := 0xaa87ca22be8b05378eb1c71ef320ad746e1d3b628ba79b9859f741e082542a385502f25dbf55296c3a545e3872760ab7
  gy := 0x3617de4a96262c6f5d9e98bf9292dc29f8f41dbd289a147ce9da3113b5f0b8c00a60b1ce1d7e819d7a431d7c90ea0e5f
  size := 48

/-- A point: `x / z²` and `y / z³`, or infinity where `z` is 0. -/
structure Point where
  x : Nat
  y : Nat
  z : Nat
  deriving Repr

/-- The point at infinity. -/
def Point.infinity : Point := ⟨1, 1, 0⟩

namespace Curve

variable (c : Curve)

/-- The generator. -/
def generator : Point := ⟨c.gx, c.gy, 1⟩

/-- Whether the coordinates are those of a point of the curve. -/
def holds (x y : Nat) : Bool :=
  x < c.p && y < c.p && y * y % c.p == (x * x * x + (c.p - 3) * x + c.b) % c.p

/-- Twice a point. -/
def double (a : Point) : Point :=
  let yy := a.y * a.y % c.p
  let zz := a.z * a.z % c.p
  let s := 4 * a.x * yy % c.p
  let m := (3 * a.x * a.x + (c.p - 3) * zz * zz) % c.p
  let x := subMod c.p (m * m % c.p) (2 * s % c.p)
  let y := subMod c.p (m * subMod c.p s x % c.p) (8 * yy * yy % c.p)
  ⟨x, y, 2 * a.y * a.z % c.p⟩

/-- The sum of two points. -/
def add (a b : Point) : Point :=
  if a.z = 0 then b
  else if b.z = 0 then a
  else
    let azz := a.z * a.z % c.p
    let bzz := b.z * b.z % c.p
    let u1 := a.x * bzz % c.p
    let u2 := b.x * azz % c.p
    let s1 := a.y * bzz * b.z % c.p
    let s2 := b.y * azz * a.z % c.p
    if u1 = u2 then
      if s1 = s2 then c.double a else .infinity
    else
      let h := subMod c.p u2 u1
      let r := subMod c.p s2 s1
      let hh := h * h % c.p
      let hhh := h * hh % c.p
      let v := u1 * hh % c.p
      let x := subMod c.p (r * r % c.p) ((hhh + 2 * v) % c.p)
      let y := subMod c.p (r * subMod c.p v x % c.p) (s1 * hhh % c.p)
      ⟨x, y, h * a.z * b.z % c.p⟩

/-- A multiple of a point, by repeated doubling. -/
def multiply (k : Nat) (a : Point) : Point :=
  if k = 0 then .infinity
  else
    let twice := c.double (multiply (k / 2) a)
    if k % 2 = 0 then twice else c.add twice a
  termination_by k

/-- The plain coordinates of a point other than infinity. -/
def affine? (a : Point) : Option (Nat × Nat) :=
  if a.z = 0 then none
  else
    let inverse := invMod c.p a.z
    let square := inverse * inverse % c.p
    some (a.x * square % c.p, a.y * square * inverse % c.p)

/-- The point of a public key: an octet 4 and the two coordinates. -/
def point? (key : Octets) : Option Point :=
  match key with
  | 4 :: coordinates =>
    let x := ofBigEndian (coordinates.take c.size)
    let y := ofBigEndian (coordinates.drop c.size)
    if coordinates.length = 2 * c.size ∧ c.holds x y then some ⟨x, y, 1⟩ else none
  | _ => none

/-- The public key that belongs to a private number. -/
def publicKey? (secret : Nat) : Option Octets := do
  let (x, y) ← c.affine? (c.multiply secret c.generator)
  return 4 :: toBigEndian c.size x ++ toBigEndian c.size y

/-- A number of a signature, which lies strictly between 0 and the order. -/
def scalar? (octets : Octets) : Option Nat :=
  let n := ofBigEndian octets
  if 0 < n ∧ n < c.order then some n else none

/-- The two numbers of a signature. -/
def signature? (octets : Octets) : Option (Nat × Nat) := do
  let inner ← Der.whole? (Der.expect .sequence octets)
  let (r, rest) ← Der.natural inner
  let s ← Der.whole? (Der.natural rest)
  return (← c.scalar? r, ← c.scalar? s)

/-- Whether the signature belongs to the message, for the owner of the public key. -/
def verify (hash : Sha2) (key message signature : Octets) : Bool :=
  match c.point? key, c.signature? signature with
  | some q, some (r, s) =>
    let e := ofBigEndian ((hash.hash message).take c.size) % c.order
    let w := invMod c.order s
    let sum := c.add (c.multiply (e * w % c.order) c.generator) (c.multiply (r * w % c.order) q)
    match c.affine? sum with
    | some (x, _) => x % c.order = r
    | none => false
  | _, _ => false

end Curve

end StandIn.Ecdsa
