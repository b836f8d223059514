/-!
# Binary floating point of 64 bits

Positive numbers with a mantissa of at most 53 bits and an exponent in a fixed range, as settings
files use them.  All arithmetic is exact arithmetic on natural numbers, rounded once.

* `Decimal.Binary64` — a number `mantissa * 2 ^ exponent`, or infinity.
* `Decimal.roundQuotient` — a quotient rounded to the nearest whole number, a half to the even one.
* `Decimal.Binary64.ofQuotient` — the nearest number to a quotient.
* `Decimal.Binary64.ofScientific`, `mul`, `div` — the nearest number to a decimal, a product, a
  quotient.
-/

namespace StandIn.Decimal

/-- The quotient rounded to the nearest whole number, and a half to the even one. -/
def roundQuotient (numerator denominator : Nat) : Nat :=
  let q := numerator / denominator
  let twice := 2 * (numerator % denominator)
  if denominator < twice || (twice = denominator && q % 2 = 1) then q + 1 else q

/-- A number that is not negative. -/
inductive Binary64 where
  | finite (mantissa : Nat) (exponent : Int)
  | infinite
  deriving DecidableEq, Repr

namespace Binary64

/-- The least exponent. -/
def minExponent : Int := -1074

/-- The greatest exponent. -/
def maxExponent : Int := 971

/-- The bound of mantissas. -/
def mantissaBound : Nat := Nat.pow 2 53

/-- Zero. -/
def zero : Binary64 := finite 0 minExponent

/-- Numerator and denominator of `numerator / denominator` in units of `2 ^ exponent`. -/
def inUnits (numerator denominator : Nat) (exponent : Int) : Nat × Nat :=
  match exponent with
  | .ofNat e => (numerator, denominator * Nat.pow 2 e)
  | .negSucc e => (numerator * Nat.pow 2 (e + 1), denominator)

/-- The number with the given mantissa, which is at most the bound, and exponent. -/
def normalise (mantissa : Nat) (exponent : Int) : Binary64 :=
  let (m, e) := if mantissa = mantissaBound then (mantissa / 2, exponent + 1) else (mantissa, exponent)
  if maxExponent < e then infinite else finite m e

/-- The number nearest to `numerator / denominator`. -/
def ofQuotient (numerator denominator : Nat) : Binary64 :=
  if numerator = 0 then zero
  else
    let estimate : Int := (Nat.log2 numerator : Int) - (Nat.log2 denominator : Int) - 52
    let (n, d) := inUnits numerator denominator estimate
    let fit := if n < d * Nat.pow 2 52 then estimate - 1 else estimate
    let exponent := max fit minExponent
    let (n, d) := inUnits numerator denominator exponent
    normalise (roundQuotient n d) exponent

/-- The number nearest to `digits * 10 ^ exponent`.  Far outside the range, where the answer is
infinity or zero, no power is computed. -/
def ofScientific (digits : Nat) (exponent : Int) : Binary64 :=
  let size : Int := (Nat.toDigits 10 digits).length + exponent
  if digits = 0 ∨ size < -400 then zero
  else if 400 < size then infinite
  else match exponent with
  | .ofNat e => ofQuotient (digits * Nat.pow 10 e) 1
  | .negSucc e => ofQuotient digits (Nat.pow 10 (e + 1))

/-- Numerator and denominator of a finite number. -/
def quotient? : Binary64 → Option (Nat × Nat)
  | finite m (.ofNat e) => some (m * Nat.pow 2 e, 1)
  | finite m (.negSucc e) => some (m, Nat.pow 2 (e + 1))
  | infinite => none

/-- The number nearest to a product. -/
def mul (x y : Binary64) : Binary64 :=
  match x.quotient?, y.quotient? with
  | some (a, b), some (c, d) => ofQuotient (a * c) (b * d)
  | _, _ => infinite

/-- The number nearest to a quotient by a finite number other than zero. -/
def div (x y : Binary64) : Binary64 :=
  match x.quotient?, y.quotient? with
  | some (a, b), some (c, d) => ofQuotient (a * d) (b * c)
  | _, _ => infinite

/-- Whether the number is zero. -/
def isZero : Binary64 → Bool
  | finite m _ => m = 0
  | infinite => false

end Binary64

end StandIn.Decimal
