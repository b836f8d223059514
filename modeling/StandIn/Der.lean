import StandIn.Text.Utf8

/-!
# Distinguished encoding

The tag, length and value layout of certificates and keys, read strictly: one-octet tags, and
lengths in their shortest form of at most two octets.

* `Der.Item` — a tag with its value.
* `Der.item` — takes an item off the front.
* `Der.expect` — takes an item with a given tag.
* `Der.natural` — takes an integer that is not negative.
* `Der.wholeBits` — takes a string of bits that fills its octets.
-/

namespace StandIn.Der

/-- The tags in use. -/
inductive Tag where
  | boolean | integer | bitString | octetString | oid | utcTime | generalizedTime | sequence
  | context0 | context1 | context3
  deriving DecidableEq, Repr

/-- The octet that stands for a tag. -/
def Tag.octet : Tag → UInt8
  | boolean => 0x01
  | integer => 0x02
  | bitString => 0x03
  | octetString => 0x04
  | oid => 0x06
  | utcTime => 0x17
  | generalizedTime => 0x18
  | sequence => 0x30
  | context0 => 0xA0
  | context1 => 0xA1
  | context3 => 0xA3

/-- A tag with its value. -/
structure Item where
  tag : UInt8
  value : Octets
  deriving DecidableEq, Repr

/-- Takes `n` octets off the front. -/
def split (n : Nat) (bs : Octets) : Option (Octets × Octets) :=
  if n ≤ bs.length then some (bs.take n, bs.drop n) else none

/-- Takes a length off the front: one octet below 128, or the number of octets that hold it.  No
longer form is taken than the length needs, and none from 65535 on. -/
def length : Octets → Option (Nat × Octets)
  | [] => none
  | b :: bs =>
    if b < 0x80 then some (b.toNat, bs)
    else if b = 0x81 then
      match bs with
      | c :: rest => if c < 0x80 then none else some (c.toNat, rest)
      | [] => none
    else if b = 0x82 then
      match bs with
      | c :: d :: rest =>
        let n := c.toNat * 256 + d.toNat
        if n < 256 ∨ 65535 ≤ n then none else some (n, rest)
      | _ => none
    else none

/-- Takes an item off the front. -/
def item : Octets → Option (Item × Octets)
  | [] => none
  | tag :: bs =>
    if tag &&& 0x1F = 0x1F then none
    else do
      let (n, bs) ← length bs
      let (value, rest) ← split n bs
      return (⟨tag, value⟩, rest)

/-- Takes an item with the given tag off the front. -/
def expect (tag : Tag) (bs : Octets) : Option (Octets × Octets) := do
  let (found, rest) ← item bs
  if found.tag = tag.octet then some (found.value, rest) else none

/-- Whether the next item has the given tag. -/
def isNext (tag : Tag) : Octets → Bool
  | [] => false
  | b :: _ => b = tag.octet

/-- The octets of an integer without the zero that shows its sign, if it is in its shortest form
and not negative. -/
def magnitude : Octets → Option Octets
  | [] => none
  | 0 :: rest =>
    match rest with
    | [] => some [0]
    | b :: _ => if 0x80 ≤ b then some rest else none
  | b :: rest => if b < 0x80 then some (b :: rest) else none

/-- Takes an integer that is not negative. -/
def natural (bs : Octets) : Option (Octets × Octets) := do
  let (value, rest) ← expect .integer bs
  return (← magnitude value, rest)

/-- A string of bits that fills its octets. -/
def filledBits : Octets → Option Octets
  | 0 :: bits => some bits
  | _ => none

/-- Takes a string of bits that fills its octets. -/
def wholeBits (bs : Octets) : Option (Octets × Octets) := do
  let (value, rest) ← expect .bitString bs
  return (← filledBits value, rest)

/-- A reader's result, if it left nothing. -/
def whole? {α : Type} : Option (α × Octets) → Option α
  | some (a, []) => some a
  | _ => none

end StandIn.Der
