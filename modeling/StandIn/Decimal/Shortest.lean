import StandIn.Decimal.Binary64

/-!
# Shortest decimals

The text of a floating-point number: the fewest digits that read back as the number, and of those
the nearest, written without an exponent.

* `Decimal.Binary64.interval?` — the numbers that round to a given one.
* `Decimal.Binary64.shortest?` — the digits and their place.
* `Decimal.positional` — digits written out.
* `Decimal.Binary64.render` — the text.
-/

namespace StandIn.Decimal

/-- A quotient of natural numbers; the denominator is not zero. -/
structure Quotient where
  numerator : Nat
  denominator : Nat

/-- Whether the first quotient is below the second. -/
def Quotient.below (a b : Quotient) : Bool :=
  a.numerator * b.denominator < b.numerator * a.denominator

/-- The quotient `numerator * 2 ^ exponent`. -/
def Quotient.ofPower (numerator : Nat) : Int → Quotient
  | .ofNat e => ⟨numerator * Nat.pow 2 e, 1⟩
  | .negSucc e => ⟨numerator, Nat.pow 2 (e + 1)⟩

/-- The quotient in units of `10 ^ exponent`. -/
def Quotient.inTens (q : Quotient) : Int → Quotient
  | .ofNat e => ⟨q.numerator, q.denominator * Nat.pow 10 e⟩
  | .negSucc e => ⟨q.numerator * Nat.pow 10 (e + 1), q.denominator⟩

/-- The numbers between two ends. -/
structure Interval where
  low : Quotient
  high : Quotient
  closed : Bool

/-- Whether the interval holds a number. -/
def Interval.holds (i : Interval) (q : Quotient) : Bool :=
  if i.closed then !q.below i.low && !i.high.below q else i.low.below q && q.below i.high

namespace Binary64

/-- The numbers that round to `mantissa * 2 ^ exponent`.  The neighbour below a power of two is
only half as far away. -/
def interval (mantissa : Nat) (exponent : Int) : Interval where
  low :=
    if mantissa = Nat.pow 2 52 ∧ minExponent < exponent then
      .ofPower (4 * mantissa - 1) (exponent - 2)
    else .ofPower (2 * mantissa - 1) (exponent - 1)
  high := .ofPower (2 * mantissa + 1) (exponent - 1)
  closed := mantissa % 2 = 0

/-- The number of decimal digits. -/
def digitCount (n : Nat) : Nat :=
  (Nat.toDigits 10 n).length

/-- The place of the first digit: the power of ten that is not greater than the number, while the
next one is. -/
def leadingPlace (q : Quotient) : Int :=
  let whole := q.numerator / q.denominator
  if 0 < whole then (digitCount whole : Int) - 1
  else
    let inverse := q.denominator / q.numerator
    if q.denominator = inverse * q.numerator ∧ inverse = Nat.pow 10 (digitCount inverse - 1) then
      -((digitCount inverse : Int) - 1)
    else -(digitCount inverse : Int)

/-- The number `n` of units of `10 ^ place`. -/
def onGrid (n : Nat) (place : Int) : Quotient :=
  match place with
  | .ofNat e => ⟨n * Nat.pow 10 e, 1⟩
  | .negSucc e => ⟨n, Nat.pow 10 (e + 1)⟩

/-- Of the two neighbours of `q` on the grid of `10 ^ place` the one that the interval holds; the
nearer of two. -/
def neighbour? (i : Interval) (q : Quotient) (place : Int) : Option Nat :=
  let scaled := q.inTens place
  let below := scaled.numerator / scaled.denominator
  let twice := 2 * (scaled.numerator % scaled.denominator)
  let downward := i.holds (onGrid below place)
  let upward := i.holds (onGrid (below + 1) place)
  if downward && upward then
    some (if scaled.denominator < twice || (twice = scaled.denominator && below % 2 = 1) then below + 1
      else below)
  else if downward then some below
  else if upward then some (below + 1)
  else none

/-- Tries ever finer grids, at most `bound` of them. -/
def search (i : Interval) (q : Quotient) (place : Int) : (bound : Nat) → Nat × Int
  | 0 => (0, place)
  | bound + 1 =>
    match neighbour? i q place with
    | some n => (n, place)
    | none => search i q (place - 1) bound

/-- The fewest digits that stand for `mantissa * 2 ^ exponent`, which is not zero, and the place of
the last of them. -/
def shortest (mantissa : Nat) (exponent : Int) : Nat × Int :=
  let q := Quotient.ofPower mantissa exponent
  search (interval mantissa exponent) q (leadingPlace q) 18

end Binary64

/-- `n * 10 ^ place` written out. -/
def positional (n : Nat) (place : Int) : String :=
  let digits := Nat.toDigits 10 n
  match place with
  | .ofNat e => String.ofList (digits ++ List.replicate e '0')
  | .negSucc e =>
    let places := e + 1
    let padded := List.replicate (places + 1 - digits.length) '0' ++ digits
    let split := padded.length - places
    let fraction := ((padded.drop split).reverse.dropWhile (· = '0')).reverse
    String.ofList (padded.take split ++ (if fraction.isEmpty then [] else '.' :: fraction))

/-- The text of a number, with a sign in front if it is negative. -/
def Binary64.render (negative : Bool) (x : Binary64) : String :=
  (if negative then "-" else "") ++
  match x with
  | .infinite => "inf"
  | .finite 0 _ => "0"
  | .finite m e =>
    let (n, place) := Binary64.shortest m e
    positional n place

end StandIn.Decimal
