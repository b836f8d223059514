import StandIn.Text.Utf8

/-!
# Base 64

Octets as printable characters.  Reading is lenient about blanks, about bits that are left over,
and about missing padding, but padding must not stand anywhere but at the end.

* `Base64.encode` — the characters of some octets, with padding.
* `Base64.decode` — the octets that characters stand for, or a `Base64.Fault`.
-/

namespace StandIn.Base64

/-- Why characters stand for no octets. -/
inductive Fault where
  | invalidCharacter (c : UInt8)
  | prematurePadding
  | invalidTrailingPadding
  deriving DecidableEq, Repr

/-- The name of a fault. -/
def Fault.name : Fault → String
  | invalidCharacter c => s!"InvalidCharacter({c.toNat})"
  | prematurePadding => "PrematurePadding"
  | invalidTrailingPadding => "InvalidTrailingPadding"

/-- The character of a number below 64. -/
def digit (n : Nat) : UInt8 :=
  if n < 26 then (65 + n).toUInt8
  else if n < 52 then (71 + n).toUInt8
  else if n < 62 then (n - 4).toUInt8
  else if n = 62 then 43
  else 47

/-- The number that a character stands for. -/
def value? (c : UInt8) : Option Nat :=
  let n := c.toNat
  if 65 ≤ n ∧ n ≤ 90 then some (n - 65)
  else if 97 ≤ n ∧ n ≤ 122 then some (n - 71)
  else if 48 ≤ n ∧ n ≤ 57 then some (n + 4)
  else if n = 43 then some 62
  else if n = 47 then some 63
  else none

/-- The padding. -/
def pad : UInt8 := 61

/-- Characters that are passed over: the blank and the controls from the tab to the return. -/
def isBlank (c : UInt8) : Bool :=
  c = 32 || (9 ≤ c && c ≤ 13)

/-! ## Writing -/

/-- The characters of some octets. -/
def encode : Octets → Octets
  | [] => []
  | [a] =>
    let n := a.toNat * 16
    [digit (n / 64), digit (n % 64), pad, pad]
  | [a, b] =>
    let n := (a.toNat * 256 + b.toNat) * 4
    [digit (n / 4096), digit (n / 64 % 64), digit (n % 64), pad]
  | a :: b :: c :: rest =>
    let n := a.toNat * 65536 + b.toNat * 256 + c.toNat
    digit (n / 262144) :: digit (n / 4096 % 64) :: digit (n / 64 % 64) :: digit (n % 64) ::
      encode rest

/-! ## Reading -/

/-- What a character is read as: a number, or none for padding. -/
abbrev Symbol := Option Nat

/-- The symbols up to the first character that is none, and that character. -/
def symbols : Octets → List Symbol × Option UInt8
  | [] => ([], none)
  | c :: rest =>
    if isBlank c then symbols rest
    else if c = pad then
      let later := symbols rest
      (none :: later.1, later.2)
    else match value? c with
      | some n =>
        let later := symbols rest
        (some n :: later.1, later.2)
      | none => ([], some c)

/-- The octets of four numbers. -/
def three (a b c d : Nat) : Octets :=
  [(a * 4 + b / 16).toUInt8, (b % 16 * 16 + c / 4).toUInt8, (c % 4 * 64 + d).toUInt8]

/-- The octets of the last one to four symbols, which may be padding from the third on.  One
number alone is too few. -/
def lastGroup : List Symbol → Except Fault Octets
  | [] => .ok []
  | [some a, some b, some c, some d] => .ok (three a b c d)
  | [some a, some b, some c, none] | [some a, some b, some c] => .ok ((three a b c 0).take 2)
  | [some a, some b, none, none] | [some a, some b] => .ok ((three a b 0 0).take 1)
  | _ => .error .invalidTrailingPadding

/-- The octets of the last symbols, of which there are at most eight. -/
def lastBlock : List Symbol → Except Fault Octets
  | a :: b :: c :: d :: e :: rest =>
    match a, b, c, d with
    | some a, some b, some c, some d => (lastGroup (e :: rest)).map (three a b c d ++ ·)
    | _, _, _, _ => .error .prematurePadding
  | short => lastGroup short

/-- The octets of symbols, which are read in blocks of eight.  A character that is no symbol is
noticed when all blocks in front of the one that it stands in have been read. -/
def blocks (invalid : Option UInt8) : List Symbol → Except Fault Octets
  | a :: b :: c :: d :: e :: f :: g :: h :: next :: rest =>
    match a, b, c, d, e, f, g, h with
    | some a, some b, some c, some d, some e, some f, some g, some h =>
      (blocks invalid (next :: rest)).map (three a b c d ++ three e f g h ++ ·)
    | _, _, _, _, _, _, _, _ => .error .prematurePadding
  | short =>
    match invalid with
    | some c => .error (.invalidCharacter c)
    | none => lastBlock short

/-- The octets that characters stand for. -/
def decode (cs : Octets) : Except Fault Octets :=
  let (found, invalid) := symbols cs
  blocks invalid found

end StandIn.Base64
