import StandIn.Settings.Format.Json
import StandIn.Text.Letter

/-!
# Settings in JSON5

* `Format.Json5.read?` — the value of a JSON5 document: comments, trailing commas, names without
  quotes, strings in either kind of quotes, numbers in base 16 and with a sign.
-/

namespace StandIn.Settings.Format.Json5

open Scan Decimal

/-- Whether the character ends a line. -/
def endsLine (c : Char) : Bool :=
  c = '\n' || c = '\r' || c = '\u2028' || c = '\u2029'

/-- Whether the character separates. -/
def isSpace (c : Char) : Bool :=
  let n := c.toNat
  c = '\t' || n = 0x0B || n = 0x0C || c = ' ' || n = 0xA0 || n = 0xFEFF || n = 0x1680 ||
    (0x2000 ≤ n && n ≤ 0x200A) || n = 0x202F || n = 0x205F || n = 0x3000 || endsLine c

/-- Passes the inside of a comment that a star and a slash close, with its end. -/
def closeComment : List Char → Option (List Char)
  | '*' :: '/' :: rest => some rest
  | _ :: rest => closeComment rest
  | [] => none

/-- Passes a comment. -/
def comment : Scan Unit :=
  first [
    do
      word "/*"
      fun cs => (closeComment cs).map fun rest => ((), rest),
    do
      word "//"
      skipWhile (!endsLine ·)]

/-- Passes white space and comments. -/
def blanks : Scan Unit := do
  let _ ← many (first [(fun _ => ()) <$> takeWhile1 isSpace, comment])

/-! ## Strings and names -/

/-- Reads what follows a backslash in a string.  The end of a line is passed over. -/
def escaped : Scan (List Char) := do
  match ← any with
  | 'b' => return ['\x08']
  | 'f' => return ['\x0c']
  | 'n' => return ['\n']
  | 'r' => return ['\r']
  | 't' => return ['\t']
  | 'v' => return ['\x0b']
  | '0' => return ['\x00']
  | 'x' =>
    let a ← ofOption (Text.digitValue? (← any))
    let b ← ofOption (Text.digitValue? (← any))
    return [Char.ofNat (a * 16 + b)]
  | 'u' => return [← Json.codePoint]
  | '\r' =>
    let _ ← accept (char '\n')
    return []
  | c =>
    if endsLine c then return []
    else
      require !c.isDigit
      return [c]

/-- Reads a string between the given quotes. -/
def stringIn (quote : Char) : Scan String := do
  char quote
  let cs ← many do
    let c ← any
    if c = '\\' then escaped
    else
      require (c ≠ quote && !endsLine c)
      return [c]
  char quote
  return String.ofList cs.flatten

/-- Reads a string. -/
def string : Scan String := first [stringIn '"', stringIn '\'']

/-- The characters that a name may start with. -/
def startsName (c : Char) : Bool :=
  Text.letters.holds c || c = '$' || c = '_'

/-- The characters that a name may go on with. -/
def continuesName (c : Char) : Bool :=
  startsName c || Text.attached.holds c

/-- Reads a character of a name that satisfies `p`, or an escape. -/
def nameChar (p : Char → Bool) : Scan Char :=
  first [satisfy p, do word "\\u"; Json.codePoint]

/-- Reads a name without quotes. -/
def name : Scan String := do
  let c ← nameChar startsName
  let cs ← many (nameChar continuesName)
  return String.ofList (c :: cs)

/-! ## Numbers -/

/-- Reads a number in base 16, which has at most 32 bits and no sign. -/
def hexNumber : Scan String := do
  first [word "0x", word "0X"]
  let digits ← takeWhile1 (Text.isDigitOf 16)
  let n := Text.numberOf 16 digits
  require (n < Nat.pow 2 32)
  return toString n

/-- Reads a number in base 10. -/
def decimalNumber : Scan String := do
  let before ← rest
  let negative ← sign
  let whole ← takeWhile Char.isDigit
  require (whole.length ≤ 1 || whole.head? ≠ some '0')
  let fraction ← maybe do
    char '.'
    takeWhile Char.isDigit
  require (!whole.isEmpty || !(fraction.getD []).isEmpty)
  let e ← maybe exponent
  let after ← rest
  if fraction.isNone && e.isNone then
    ofOption (whole? (signed negative (Text.numberOf 10 whole)))
  else ofOption (real? (String.ofList (before.take (before.length - after.length))))

/-- Reads a number and gives its text. -/
def number : Scan String :=
  first [hexNumber, decimalNumber, (fun _ => "inf") <$> word "Infinity",
    (fun _ => "-inf") <$> word "-Infinity", (fun _ => "NaN") <$> word "NaN",
    (fun _ => "NaN") <$> word "-NaN"]

/-! ## Values -/

/-- Reads items between two brackets.  A comma may follow the last one. -/
def bracketed {α : Type} (opening closing : Char) (item : Scan α) : Scan (List α) := do
  char opening
  blanks
  let items ← separated (do let v ← item; blanks; return v) (do char ','; blanks)
  if !items.isEmpty then
    let _ ← accept (char ',')
  blanks
  char closing
  return items

/-- Reads a value that nests at most `depth` deep. -/
def value (origin : Option String) : (depth : Nat) → Scan Value
  | 0 => fail
  | depth + 1 =>
    let member : Scan (String × Value) := do
      let name ← first [name, string]
      blanks
      char ':'
      blanks
      let v ← value origin depth
      return (name, v)
    first [(fun _ => Value.null) <$> word "null", (fun _ => .text "true") <$> word "true",
      (fun _ => .text "false") <$> word "false", .text <$> string, .text <$> number,
      (fun ms => .table (Members.ofList ms)) <$> bracketed '\x7b' '\x7d' member,
      (fun items => .list items origin) <$> bracketed '[' ']' (value origin depth)]

/-- Reads a document. -/
def document (origin : Option String) : Scan Value := do
  blanks
  let v ← value origin (← rest).length
  blanks
  return v

/-- The value of a document. -/
def read? (origin : Option String) (text : String) : Option Value :=
  (document origin).run? text

end StandIn.Settings.Format.Json5
