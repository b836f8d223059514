import StandIn.Wire.Reader

/-!
# Writing octets

The counterpart of the elementary readers.  Lengths are announced before the octets that they
count, so next to each writer stands a formula for the number of octets that it writes.

* `varintOctets`, `varintSize` — a number in base 128.
* `keyOctets`, `keySize` — the key of a record.
* `delimitedOctets`, `delimitedSize` — a stretch of octets after its length.
-/

namespace StandIn.Wire

/-- A number in base 128, the least digit first: all digits but the last carry the top bit. -/
def varintOctets (n : Nat) : Octets :=
  if n < 128 then [n.toUInt8] else (n % 128 + 128).toUInt8 :: varintOctets (n / 128)

/-- The number of digits of `n` in base 128.  For `n` below 2 ^ 64, `(9 * b + 73) / 64` is the
number of groups of seven among the bits 0 to `b`. -/
def varintSize (n : Nat) : Nat :=
  (Nat.log2 (n ||| 1) * 9 + 73) / 64

/-- The key of a record of field `number`. -/
def keyOctets (number : Nat) (wireType : WireType) : Octets :=
  varintOctets (number * 8 + wireType.code)

/-- The size of any key of field `number`. -/
def keySize (number : Nat) : Nat :=
  varintSize (number * 8)

/-- Octets after their length. -/
def delimitedOctets (bs : Octets) : Octets :=
  varintOctets bs.length ++ bs

/-- The size of `n` octets together with their length. -/
def delimitedSize (n : Nat) : Nat :=
  varintSize n + n

end StandIn.Wire
