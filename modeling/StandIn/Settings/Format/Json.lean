import StandIn.Decimal.Reader
import StandIn.Settings.Value

/-!
# Settings in JSON

* `Format.Json.read?` — the value of a JSON document.
* `Format.Json.number` — numbers.  A whole number of 64 bits is exact.  Of all others the first 19 or
  20 digits are taken as a whole number and scaled by a power of ten, rounding twice.

Arrays and objects nest at most 127 deep.
-/

namespace StandIn.Settings.Format.Json

open Scan Decimal

/-- The deepest nesting of arrays and objects. -/
def maxDepth : Nat := 127

/-- Passes white space. -/
def blanks : Scan Unit :=
  skipWhile fun c => c = ' ' || c = '\t' || c = '\n' || c = '\r'

/-! ## Strings -/

/-- Reads four digits in base 16. -/
def fourHex : Scan Nat := do
  let mut n := 0
  for _ in [0, 1, 2, 3] do
    n := n * 16 + (← ofOption (Text.digitValue? (← any)))
  return n

/-- Reads what follows `\u`.  A character beyond the first plane takes two such escapes. -/
def codePoint : Scan Char := do
  let n ← fourHex
  if 0xD800 ≤ n ∧ n < 0xDC00 then
    word "\\u"
    let low ← fourHex
    require (0xDC00 ≤ low && low < 0xE000)
    return Char.ofNat (0x10000 + (n - 0xD800) * 0x400 + (low - 0xDC00))
  else
    require !(0xDC00 ≤ n && n < 0xE000)
    return Char.ofNat n

/-- Reads what follows a backslash. -/
def escaped : Scan Char := do
  match ← any with
  | '"' => return '"'
  | '\\' => return '\\'
  | '/' => return '/'
  | 'b' => return '\x08'
  | 'f' => return '\x0c'
  | 'n' => return '\n'
  | 'r' => return '\r'
  | 't' => return '\t'
  | 'u' => codePoint
  | _ => fail

/-- Reads one character of a string. -/
def stringChar : Scan Char := do
  let c ← any
  if c = '\\' then escaped
  else
    require (c ≠ '"' && 0x20 ≤ c.toNat)
    return c

/-- Reads a string. -/
def string : Scan String := do
  char '"'
  let cs ← many stringChar
  char '"'
  return String.ofList cs

/-! ## Numbers -/

/-- The bound of whole numbers of 64 bits. -/
def wordBound : Nat := Nat.pow 2 64

/-- Appends digits to a number as long as 64 bits hold it; also gives the count of digits that were
appended. -/
def absorb (n : Nat) : List Char → Nat × Nat
  | [] => (n, 0)
  | c :: cs =>
    let next := n * 10 + (Text.digitValue? c).getD 0
    if next < wordBound then
      let (total, count) := absorb next cs
      (total, count + 1)
    else (n, 0)

/-- Divides by ten to the power of 308 until what remains of the exponent has a power. -/
def scaleDown (x : Binary64) (exponent : Nat) : (bound : Nat) → Binary64
  | 0 => .zero
  | bound + 1 =>
    if x.isZero then x
    else if exponent ≤ 308 then x.div (.ofScientific 1 exponent)
    else scaleDown (x.div (.ofScientific 1 308)) (exponent - 308) bound

/-- The number `digits * 10 ^ exponent`, from a rounded whole number and a rounded power.  Numbers
beyond the range are refused; below it all is zero. -/
def scaled? (digits : Nat) (exponent : Int) : Option Binary64 :=
  let x := Binary64.ofScientific digits 0
  match exponent with
  | .negSucc e => some (scaleDown x (e + 1) 5)
  | .ofNat e =>
    if x.isZero then some x
    else if 308 < e then none
    else
      match x.mul (.ofScientific 1 e) with
      | .infinite => none
      | y => some y

/-- Reads the digits of a whole number, which has no superfluous zero in front. -/
def wholeDigits : Scan (List Char) := do
  let digits ← takeWhile1 Char.isDigit
  require (digits.length = 1 || digits.head? ≠ some '0')
  return digits

/-- Reads a number and gives its text. -/
def number : Scan String := do
  let negative ← accept (char '-')
  let whole ← wholeDigits
  let fraction ← maybe do
    char '.'
    takeWhile1 Char.isDigit
  let e ← maybe exponent
  let (n, used) := absorb 0 whole
  if fraction.isNone && e.isNone && used = whole.length then
    match whole? (signed negative n) with
    | some text => return if negative && n = 0 then "-0" else text
    | none => return (Binary64.ofScientific n 0).render negative
  else
    let (digits, places) := absorb n (fraction.getD [])
    let x ← ofOption (scaled? digits (e.getD 0 + ((whole.length - used : Nat) : Int) - places))
    return x.render negative

/-! ## Values -/

/-- Reads a value that is no array or object. -/
def scalar : Scan Value :=
  first [(fun _ => Value.null) <$> word "null", (fun _ => .text "true") <$> word "true",
    (fun _ => .text "false") <$> word "false", .text <$> string, .text <$> number]

/-- Reads a comma with white space after it. -/
def comma : Scan Unit := do
  char ','
  blanks

/-- Reads an array of what `item` reads. -/
def array (origin : Option String) (item : Scan Value) : Scan Value := do
  char '['
  blanks
  let items ← separated (do let v ← item; blanks; return v) comma
  char ']'
  return .list items origin

/-- Reads an object whose values `item` reads. -/
def object (item : Scan Value) : Scan Value := do
  char '\x7b'
  blanks
  let member : Scan (String × Value) := do
    let name ← string
    blanks
    char ':'
    blanks
    let v ← item
    blanks
    return (name, v)
  let members ← separated member comma
  char '\x7d'
  return .table (Members.ofList members)

/-- Reads a value that nests at most `depth` deep. -/
def value (origin : Option String) : (depth : Nat) → Scan Value
  | 0 => scalar
  | depth + 1 => first [scalar, array origin (value origin depth), object (value origin depth)]

/-- Reads a document. -/
def document (origin : Option String) : Scan Value := do
  blanks
  let v ← value origin maxDepth
  blanks
  return v

/-- The value of a document. -/
def read? (origin : Option String) (text : String) : Option Value :=
  (document origin).run? text

end StandIn.Settings.Format.Json
