import StandIn.Octets

/-!
# UTF-8

Octet sequences as text.  A body that is only looked at must never be refused, so besides the
strict reading there is a lenient one that puts U+FFFD in the place of whatever is ill-formed.
Both rest on the same division of the octets into pieces.

* `Utf8.Piece` — one well-formed character, or one maximal ill-formed subpart: the longest
  prefix of some well-formed character, or else a single octet.
* `Utf8.next` — splits the first piece off a non-empty sequence.
* `Utf8.pieces` — the whole division, read from left to right.
* `Utf8.decode?` — the strict reading: every piece has to be a character.
* `Utf8.lossy` — the lenient reading: one U+FFFD for every ill-formed piece.
* `Utf8.encode` — the octets of a text.
-/

namespace StandIn.Utf8

/-- One piece of the division of an octet sequence. -/
inductive Piece where
  /-- A well-formed character. -/
  | char (c : Char)
  /-- A maximal ill-formed subpart. -/
  | illFormed (octets : Octets)
  deriving Repr, DecidableEq

/-- The character that a lenient reading shows for a piece. -/
def Piece.shown : Piece → Char
  | .char c => c
  | .illFormed _ => '\uFFFD'

/-- An octet of the form `10xxxxxx`, which only ever continues a character. -/
def isContinuation (b : UInt8) : Bool :=
  0x80 ≤ b && b ≤ 0xBF

/-- The second octets that may follow a lead octet.  After `E0` and `F0` the lower ones would be
overlong, after `ED` the upper ones surrogates, and after `F4` the upper ones beyond U+10FFFF. -/
def isSecond (lead b : UInt8) : Bool :=
  if lead = 0xE0 then 0xA0 ≤ b && b ≤ 0xBF
  else if lead = 0xED then 0x80 ≤ b && b ≤ 0x9F
  else if lead = 0xF0 then 0x90 ≤ b && b ≤ 0xBF
  else if lead = 0xF4 then 0x80 ≤ b && b ≤ 0x8F
  else isContinuation b

/-- The six payload bits of a continuation octet. -/
def payload (b : UInt8) : Nat :=
  b.toNat % 64

/-- The octet count of a character by its lead octet, or none where no character starts. -/
def width? (lead : UInt8) : Option Nat :=
  if lead < 0x80 then some 1
  else if 0xC2 ≤ lead && lead ≤ 0xDF then some 2
  else if 0xE0 ≤ lead && lead ≤ 0xEF then some 3
  else if 0xF0 ≤ lead && lead ≤ 0xF4 then some 4
  else none

/-- The first piece of `b :: bs`, and what follows it. -/
def next (b : UInt8) (bs : Octets) : Piece × Octets :=
  match width? b with
  | some 1 => (.char (Char.ofNat b.toNat), bs)
  | some 2 =>
    match bs with
    | c :: r =>
      if isSecond b c then (.char (Char.ofNat (b.toNat % 32 * 64 + payload c)), r)
      else (.illFormed [b], bs)
    | [] => (.illFormed [b], bs)
  | some 3 =>
    match bs with
    | c :: r =>
      if isSecond b c then
        match r with
        | d :: r' =>
          if isContinuation d then
            (.char (Char.ofNat (b.toNat % 16 * 4096 + payload c * 64 + payload d)), r')
          else (.illFormed [b, c], r)
        | [] => (.illFormed [b, c], r)
      else (.illFormed [b], bs)
    | [] => (.illFormed [b], bs)
  | some _ =>
    match bs with
    | c :: r =>
      if isSecond b c then
        match r with
        | d :: r' =>
          if isContinuation d then
            match r' with
            | e :: r'' =>
              if isContinuation e then
                (.char (Char.ofNat
                  (b.toNat % 8 * 262144 + payload c * 4096 + payload d * 64 + payload e)), r'')
              else (.illFormed [b, c, d], r')
            | [] => (.illFormed [b, c, d], r')
          else (.illFormed [b, c], r)
        | [] => (.illFormed [b, c], r)
      else (.illFormed [b], bs)
    | [] => (.illFormed [b], bs)
  | none => (.illFormed [b], bs)

theorem length_next_le (b : UInt8) (bs : Octets) : (next b bs).2.length ≤ bs.length := by
  unfold next
  repeat' split
  all_goals (simp_all; try omega)

/-- Folds over the pieces from left to right. -/
def foldPieces {σ : Type} (f : σ → Piece → σ) (s : σ) : Octets → σ
  | [] => s
  | b :: bs => foldPieces f (f s (next b bs).1) (next b bs).2
  termination_by bs => bs.length
  decreasing_by
    have := length_next_le b bs
    simp; omega

/-- The division of the octets into pieces. -/
def pieces (bs : Octets) : List Piece :=
  (foldPieces (fun acc p => p :: acc) [] bs).reverse

/-- The text whose octets these are, if there is one. -/
def decode? (bs : Octets) : Option String :=
  foldPieces (fun s p =>
    match s, p with
    | some s, .char c => some (s.push c)
    | _, _ => none) (some "") bs

/-- The text with one U+FFFD in the place of each ill-formed piece. -/
def lossy (bs : Octets) : String :=
  foldPieces (fun s p => s.push p.shown) "" bs

/-- The octets of a text. -/
def encode (s : String) : Octets :=
  s.toList.flatMap String.utf8EncodeChar

end StandIn.Utf8
