import StandIn.Text.Utf8

/-!
# Numbers for cryptography

* `Number.ofBigEndian`, `Number.toBigEndian` — numbers as octets, the highest first.
* `Number.powMod` — powers modulo a number.
* `Number.invMod` — inverses modulo a prime.
* `Number.root` — the integer part of a root.
-/

namespace StandIn.Number

/-- The number whose octets these are, the highest first. -/
def ofBigEndian (bs : Octets) : Nat :=
  bs.foldl (fun n b => n * 256 + b.toNat) 0

/-- The lowest `size` octets of a number, the lowest first. -/
def toLittleEndian : (size : Nat) → (n : Nat) → Octets
  | 0, _ => []
  | size + 1, n => n.toUInt8 :: toLittleEndian size (n / 256)

/-- The lowest `size` octets of a number, the highest first. -/
def toBigEndian (size n : Nat) : Octets :=
  (toLittleEndian size n).reverse

/-- `base ^ e` modulo `m`, by repeated squaring. -/
def powMod (m base e : Nat) : Nat :=
  if e = 0 then 1 % m
  else
    let square := powMod m (base * base % m) (e / 2)
    if e % 2 = 0 then square else square * base % m
  termination_by e

/-- The inverse of `a` modulo a prime. -/
def invMod (prime a : Nat) : Nat :=
  powMod prime a (prime - 2)

/-- `a - b` modulo `m`, for `b` at most `m`. -/
def subMod (m a b : Nat) : Nat :=
  (a + (m - b)) % m

/-- Bit by bit, the largest number whose `k`-th power is at most `n`: `found` holds the bits above
`bits`. -/
def rootFrom (k n : Nat) : (bits found : Nat) → Nat
  | 0, found => found
  | bits + 1, found =>
    let larger := found + Nat.pow 2 bits
    rootFrom k n bits (if Nat.pow larger k ≤ n then larger else found)

/-- The largest number whose `k`-th power is at most `n`. -/
def root (k n : Nat) : Nat :=
  rootFrom k n (n.log2 / k + 1) 0

/-- The number of bits of a number. -/
def bitLength (n : Nat) : Nat :=
  if n = 0 then 0 else n.log2 + 1

end StandIn.Number
