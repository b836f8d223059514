import StandIn.Crypto.Sha2
import StandIn.Der

/-!
# RSA signatures

* `Rsa.PublicKey` — modulus and exponent; only moduli of 2048 to 8192 bits are taken.
* `PublicKey.verifyPkcs1` — signatures with the fixed padding.
* `PublicKey.verifyPss` — signatures with the randomised padding, whose salt is as long as the
  digest.
-/

namespace StandIn.Rsa

open Number

/-- Modulus and exponent. -/
structure PublicKey where
  modulus : Nat
  exponent : Nat
  deriving Repr

namespace PublicKey

/-- The size of the modulus in octets. -/
def size (k : PublicKey) : Nat :=
  (bitLength k.modulus + 7) / 8

/-- Whether the key may be used: an odd modulus of 2048 to 8192 bits, counted up to whole octets,
and an odd exponent of 2 to 33 bits. -/
def usable (k : PublicKey) : Bool :=
  k.modulus % 2 = 1 && 256 ≤ k.size && bitLength k.modulus ≤ 8192 &&
    k.exponent % 2 = 1 && 3 ≤ k.exponent && bitLength k.exponent ≤ 33

/-- A key from its encoded form. -/
def ofOctets? (octets : Octets) : Option PublicKey := do
  let inner ← Der.whole? (Der.expect .sequence octets)
  let (n, rest) ← Der.natural inner
  let e ← Der.whole? (Der.natural rest)
  let k : PublicKey := ⟨ofBigEndian n, ofBigEndian e⟩
  if k.usable then some k else none

/-- The octets from which a signature was made. -/
def recover? (k : PublicKey) (signature : Octets) : Option Octets :=
  let s := ofBigEndian signature
  if signature.length = k.size ∧ 0 < s ∧ s < k.modulus then
    some (toBigEndian k.size (powMod k.modulus s k.exponent))
  else none

/-- What stands in front of a digest in the fixed padding: the name of the hash function. -/
def digestHeader (hash : Sha2) : Octets :=
  let number : UInt8 := if hash.digestSize = 32 then 1 else if hash.digestSize = 48 then 2 else 3
  let size := hash.digestSize.toUInt8
  [0x30, size + 17, 0x30, 0x0d, 0x06, 0x09, 0x60, 0x86, 0x48, 0x01, 0x65, 0x03, 0x04, 0x02,
    number, 0x05, 0x00, 0x04, size]

/-- Whether the signature belongs to the message, with the fixed padding. -/
def verifyPkcs1 (k : PublicKey) (hash : Sha2) (message signature : Octets) : Bool :=
  let tail := digestHeader hash ++ hash.hash message
  let filled := 0x00 :: 0x01 :: List.replicate (k.size - tail.length - 3) 0xff ++ 0x00 :: tail
  k.recover? signature = some filled

/-- `size` octets that look random but follow from the seed. -/
def mask (hash : Sha2) (seed : Octets) (size : Nat) : Octets :=
  let blocks := (List.range (size / hash.digestSize + 1)).map fun i =>
    hash.hash (seed ++ toBigEndian 4 i)
  blocks.flatten.take size

/-- Whether `encoded`, of which the lowest `bits` bits count, is the randomised padding of the
digest. -/
def isPss (hash : Sha2) (digest encoded : Octets) (bits : Nat) : Bool :=
  let size := hash.digestSize
  let unused := 8 * encoded.length - bits
  let dataSize := encoded.length - size - 1
  let masked := encoded.take dataSize
  let check := (encoded.drop dataSize).take size
  let first := (masked.head?.getD 0).toNat
  let opened := List.zipWith (· ^^^ ·) masked (mask hash check dataSize)
  let cleared := match opened with
    | [] => []
    | b :: rest => (b.toNat % Nat.pow 2 (8 - unused)).toUInt8 :: rest
  let zeros := dataSize - size - 1
  let salt := cleared.drop (zeros + 1)
  2 * size + 2 ≤ encoded.length && encoded.getLast? == some 0xbc &&
    first < Nat.pow 2 (8 - unused) &&
    cleared.take (zeros + 1) == List.replicate zeros 0 ++ [1] &&
    hash.hash (List.replicate 8 0 ++ digest ++ salt) == check

/-- Whether the signature belongs to the message, with the randomised padding. -/
def verifyPss (k : PublicKey) (hash : Sha2) (message signature : Octets) : Bool :=
  let bits := bitLength k.modulus - 1
  match k.recover? signature with
  | none => false
  | some padded =>
    let size := (bits + 7) / 8
    let front := padded.take (k.size - size)
    front.all (· == 0) && isPss hash (hash.hash message) (padded.drop (k.size - size)) bits

end PublicKey

end StandIn.Rsa
