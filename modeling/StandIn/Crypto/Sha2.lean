import StandIn.Crypto.Number

/-!
# The SHA-2 family of hash functions

One description serves all members: they differ in the width of their words, in the number of
rounds, in the amounts of their rotations, and in where they start.

* `Sha2` — the parameters of a member: `Sha2.sha256`, `Sha2.sha384`, `Sha2.sha512`.
* `Sha2.hash` — the digest of a message.

The constants are the first bits of the fractional parts of roots of the first primes, and are
computed as such.
-/

namespace StandIn

/-- The parameters of a member of the family.  Of `mix0` and `mix1` the last amount is a shift;
all other amounts are rotations. -/
structure Sha2 where
  wordBits : Nat
  rounds : Nat
  sum0 : Nat × Nat × Nat
  sum1 : Nat × Nat × Nat
  mix0 : Nat × Nat × Nat
  mix1 : Nat × Nat × Nat
  /-- How many primes are passed over for the initial state. -/
  firstPrime : Nat
  /-- How many words of the final state make up the digest. -/
  digestWords : Nat

namespace Sha2

/-- The member with words of 32 bits. -/
def sha256 : Sha2 :=
  ⟨32, 64, (2, 13, 22), (6, 11, 25), (7, 18, 3), (17, 19, 10), 0, 8⟩

/-- The member with words of 64 bits. -/
def sha512 : Sha2 :=
  ⟨64, 80, (28, 34, 39), (14, 18, 41), (1, 8, 7), (19, 61, 6), 0, 8⟩

/-- The member with words of 64 bits and a shortened digest. -/
def sha384 : Sha2 :=
  { sha512 with firstPrime := 8, digestWords := 6 }

/-- The first 80 primes. -/
def primes : List Nat :=
  (List.range 410).filter fun n => 2 ≤ n && (List.range n).all fun d => d < 2 || n % d != 0

variable (h : Sha2)

/-- The first bits of the fractional part of the `k`-th root of `n`. -/
def fraction (k n : Nat) : BitVec h.wordBits :=
  BitVec.ofNat h.wordBits (Number.root k (n * Nat.pow 2 (k * h.wordBits)))

/-- The constant of each round. -/
def roundConstants : List (BitVec h.wordBits) :=
  (primes.take h.rounds).map (h.fraction 3)

/-- The state before the first block. -/
def initial : List (BitVec h.wordBits) :=
  ((primes.drop h.firstPrime).take 8).map (h.fraction 2)

/-- The digest's size in octets. -/
def digestSize : Nat :=
  h.digestWords * (h.wordBits / 8)

/-- The size of a block in octets. -/
def blockSize : Nat :=
  2 * h.wordBits

variable {h}

/-- Three rotations of a word, added without carry. -/
def sum (amounts : Nat × Nat × Nat) (x : BitVec h.wordBits) : BitVec h.wordBits :=
  x.rotateRight amounts.1 ^^^ x.rotateRight amounts.2.1 ^^^ x.rotateRight amounts.2.2

/-- Two rotations and a shift of a word, added without carry. -/
def mix (amounts : Nat × Nat × Nat) (x : BitVec h.wordBits) : BitVec h.wordBits :=
  x.rotateRight amounts.1 ^^^ x.rotateRight amounts.2.1 ^^^ x >>> amounts.2.2

variable (h)

/-- Appends one word to the schedule of a block. -/
def extend (w : Array (BitVec h.wordBits)) : Array (BitVec h.wordBits) :=
  let word (back : Nat) := w.getD (w.size - back) 0
  w.push (mix h.mix1 (word 2) + word 7 + mix h.mix0 (word 15) + word 16)

/-- The words of a block, and those made from them, one a round. -/
def schedule (block : Array (BitVec h.wordBits)) : Array (BitVec h.wordBits) :=
  (List.range (h.rounds - 16)).foldl (fun w _ => h.extend w) block

/-- One round: the state moves on by one word. -/
def round (state : List (BitVec h.wordBits)) (constant word : BitVec h.wordBits) :
    List (BitVec h.wordBits) :=
  match state with
  | [a, b, c, d, e, f, g, k] =>
    let t1 := k + sum h.sum1 e + ((e &&& f) ^^^ (~~~e &&& g)) + constant + word
    let t2 := sum h.sum0 a + ((a &&& b) ^^^ (a &&& c) ^^^ (b &&& c))
    [t1 + t2, a, b, c, d + t1, e, f, g]
  | other => other

/-- Takes one block into the state. -/
def compress (state : List (BitVec h.wordBits)) (block : Array (BitVec h.wordBits)) :
    List (BitVec h.wordBits) :=
  let rounds := h.roundConstants.zip (h.schedule block).toList
  let final := rounds.foldl (fun s (constant, word) => h.round s constant word) state
  List.zipWith (· + ·) state final

/-- A message with its padding: a single bit, zeros, and the length in bits. -/
def padded (message : Octets) : Octets :=
  let tail := h.wordBits / 4
  let room := (message.length + 1 + tail) % h.blockSize
  let zeros := if room = 0 then 0 else h.blockSize - room
  message ++ 0x80 :: List.replicate zeros 0 ++ Number.toBigEndian tail (message.length * 8)

/-- The digest of a message. -/
def hash (message : Octets) : Octets :=
  let word (octets : Octets) := BitVec.ofNat h.wordBits (Number.ofBigEndian octets)
  let block (octets : Octets) := ((pieces (h.wordBits / 8) octets).map word).toArray
  let blocks := (pieces h.blockSize (h.padded message)).map block
  let final := blocks.foldl h.compress h.initial
  (final.take h.digestWords).flatMap fun w => Number.toBigEndian (h.wordBits / 8) w.toNat

end Sha2

end StandIn
