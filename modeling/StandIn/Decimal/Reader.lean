import StandIn.Decimal.Shortest
import StandIn.Text.Digit
import StandIn.Text.Scan

/-!
# Reading numbers

Numbers as settings files write them.  A setting is a text in the end, so what is read is at once
brought to the text that the number has.

* `Decimal.whole?` — the text of a whole number of 64 bits with a sign.
* `Decimal.real?` — the text of a number with a fraction or an exponent, of infinity, or of no
  number at all.
-/

namespace StandIn.Decimal

/-- The text of a whole number, if 64 bits hold it with its sign. -/
def whole? (n : Int) : Option String :=
  if -9223372036854775808 ≤ n ∧ n ≤ 9223372036854775807 then some (toString n) else none

/-- The number that a sign and a magnitude make. -/
def signed (negative : Bool) (n : Nat) : Int :=
  if negative then -(n : Int) else n

/-- Reads a sign, if one is there, and tells whether it is a minus. -/
def sign : Scan Bool :=
  Scan.first [(fun _ => true) <$> Scan.char '-', (fun _ => false) <$> Scan.char '+', pure false]

/-- Reads the digits of an exponent with its sign. -/
def exponent : Scan Int := do
  let _ ← Scan.satisfy fun c => c = 'e' || c = 'E'
  let negative ← sign
  let digits ← Scan.takeWhile1 Char.isDigit
  return signed negative (Text.numberOf 10 digits)

/-- Reads digits with a point somewhere among them, or none, and an exponent, or none. -/
def magnitude : Scan Binary64 := do
  let whole ← Scan.takeWhile Char.isDigit
  let fraction ← Scan.maybe do
    Scan.char '.'
    Scan.takeWhile Char.isDigit
  let fraction := fraction.getD []
  Scan.require (!whole.isEmpty || !fraction.isEmpty)
  let e ← Scan.maybe exponent
  return .ofScientific (Text.numberOf 10 (whole ++ fraction)) (e.getD 0 - fraction.length)

/-- The text of a number that a text in any of the usual forms stands for. -/
def real? (s : String) : Option String :=
  let (negative, body) := match s.toList with
    | '-' :: rest => (true, rest)
    | '+' :: rest => (false, rest)
    | cs => (false, cs)
  let lower := String.ofList (body.map Char.toLower)
  if lower = "inf" ∨ lower = "infinity" then some (Binary64.infinite.render negative)
  else if lower = "nan" then some "NaN"
  else (magnitude.run? (String.ofList body)).map (Binary64.render negative)

end StandIn.Decimal
