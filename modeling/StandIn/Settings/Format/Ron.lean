import StandIn.Decimal.Reader
import StandIn.Settings.Value

/-!
# Settings in RON

* `Format.Ron.read?` — the value of a document in object notation with parentheses for structures
  and tuples, brackets for lists, and braces for maps.
* `Format.Ron.value` — values.  Names of structures mean nothing; an option stands for what it holds.
-/

namespace StandIn.Settings.Format.Ron

open Scan Decimal

/-- Passes a comment that stars and slashes enclose; such comments nest. -/
def closeComment : (nested : Nat) → List Char → Option (List Char)
  | 0, rest => some rest
  | n + 1, '*' :: '/' :: rest => closeComment n rest
  | n + 1, '/' :: '*' :: rest => closeComment (n + 2) rest
  | n + 1, _ :: rest => closeComment (n + 1) rest
  | _ + 1, [] => none

/-- Passes a comment. -/
def comment : Scan Unit :=
  first [
    do
      word "/*"
      fun cs => (closeComment 1 cs).map fun rest => ((), rest),
    do
      word "//"
      skipWhile (· ≠ '\n')]

/-- Passes white space and comments. -/
def blanks : Scan Unit := do
  let _ ← many (first [
    (fun _ => ()) <$> takeWhile1 (fun c => c = ' ' || c = '\n' || c = '\t' || c = '\r'), comment])

/-- Whether the character may stand in a name. -/
def isNameChar (c : Char) : Bool := c.isAlphanum || c = '_'

/-- Reads a name. -/
def name : Scan String := do
  let cs ← takeWhile1 isNameChar
  require !(cs.headD '0').isDigit
  return String.ofList cs

/-- Reads a given word that is not part of a longer name. -/
def keyword (s : String) : Scan Unit := do
  word s
  require !((← peek?).any isNameChar)

/-! ## Strings -/

/-- Reads what follows a backslash. -/
def escaped : Scan Char := do
  match ← any with
  | '\'' => return '\''
  | '"' => return '"'
  | '\\' => return '\\'
  | 'n' => return '\n'
  | 'r' => return '\r'
  | 't' => return '\t'
  | '0' => return '\x00'
  | 'x' =>
    let a ← ofOption (Text.digitValue? (← any))
    let b ← ofOption (Text.digitValue? (← any))
    return Char.ofNat (a * 16 + b)
  | 'u' =>
    char '\x7b'
    let ds ← takeWhile1 (Text.isDigitOf 16)
    char '\x7d'
    let n := Text.numberOf 16 ds
    require (ds.length ≤ 6 && (n < 0xD800 || (0xE000 ≤ n && n < 0x110000)))
    return Char.ofNat n
  | _ => fail

/-- Reads a string. -/
def string : Scan String := do
  char '"'
  let cs ← many do
    let c ← satisfy (· ≠ '"')
    if c = '\\' then escaped else return c
  char '"'
  return String.ofList cs

/-- Reads a string without escapes, which ends at a quote with as many hashes as it began with. -/
def rawString : Scan String := do
  char 'r'
  let hashes ← takeWhile (· = '#')
  char '"'
  let closing := '"' :: hashes
  let cs ← many fun cs => if closing.isPrefixOf cs then none else any cs
  word (String.ofList closing)
  return String.ofList cs

/-- Reads a character between quotes. -/
def character : Scan String := do
  char '\''
  let c ← satisfy (· ≠ '\'')
  let c ← if c = '\\' then escaped else pure c
  char '\''
  return String.singleton c

/-! ## Numbers -/

/-- Reads digits of a base with underscores among them. -/
def digitsOf (base : Nat) : Scan (List Char) := do
  let ds ← takeWhile1 fun c => Text.isDigitOf base c || c = '_'
  let ds := ds.filter (· ≠ '_')
  require !ds.isEmpty
  return ds

/-- The text of a whole number, if 64 bits hold it, and else of the nearest real one. -/
def wholeOrReal (negative : Bool) (n : Nat) : String :=
  (whole? (signed negative n)).getD ((Binary64.ofScientific n 0).render negative)

/-- Reads a number. -/
def number : Scan String := do
  let negative ← sign
  let based (mark : String) (base : Nat) : Scan String := do
    word mark
    return wholeOrReal negative (Text.numberOf base (← digitsOf base))
  let real : Scan String := do
    let cs ← takeWhile1 fun c => c.isDigit || "._eE+-".toList.contains c
    let cs := cs.filter (· ≠ '_')
    if cs.all Char.isDigit then return wholeOrReal negative (Text.numberOf 10 cs)
    else
      let x ← ofOption (magnitude.run? (String.ofList cs))
      return x.render negative
  first [based "0x" 16, based "0b" 2, based "0o" 8, real]

/-! ## Values -/

/-- Reads items up to a closing bracket.  A comma may follow the last one. -/
def upTo {α : Type} (closing : Char) (item : Scan α) : Scan (List α) := do
  blanks
  let items ← separated (do let v ← item; blanks; return v) (do char ','; blanks)
  if !items.isEmpty then
    let _ ← accept (char ',')
  blanks
  char closing
  return items

/-- Reads a value that nests at most `depth` deep, and tells whether it is a string. -/
def value (origin : Option String) : (depth : Nat) → Scan (Value × Bool)
  | 0 => fail
  | depth + 1 =>
    let plain (v : Value) : Value × Bool := (v, false)
    let item : Scan Value := (·.1) <$> value origin depth
    let field : Scan (String × Value) := do
      let key ← name
      blanks
      char ':'
      blanks
      return (key, ← item)
    let member : Scan (String × Value) := do
      let (key, isText) ← value origin depth
      require isText
      blanks
      char ':'
      blanks
      match key with
      | .text key => return (key, ← item)
      | _ => fail
    let parenthesised : Scan Value :=
      first [
        do
          char '('
          blanks
          char ')'
          return .null,
        do
          char '('
          return .table (Members.ofList (← upTo ')' field)),
        do
          char '('
          return .list (← upTo ')' item) origin]
    let wrapped : Scan Value := do
      keyword "Some"
      blanks
      char '('
      blanks
      let v ← item
      blanks
      char ')'
      return v
    first [
      (fun _ => plain (.text "true")) <$> keyword "true",
      (fun _ => plain (.text "false")) <$> keyword "false",
      (fun _ => plain .null) <$> keyword "None",
      plain <$> wrapped,
      (fun _ => plain (.text "inf")) <$> keyword "inf",
      (fun _ => plain (.text "NaN")) <$> keyword "NaN",
      (fun s => (.text s, true)) <$> first [string, rawString, character],
      plain <$> parenthesised,
      do
        let _ ← name
        blanks
        plain <$> orElse parenthesised (pure .null),
      do
        char '['
        return plain (.list (← upTo ']' item) origin),
      do
        char '\x7b'
        return plain (.table (Members.ofList (← upTo '\x7d' member))),
      (fun s => plain (.text s)) <$> number]

/-- Reads a document. -/
def document (origin : Option String) : Scan Value := do
  blanks
  let (v, _) ← value origin (← rest).length
  blanks
  return v

/-- The value of a document. -/
def read? (origin : Option String) (text : String) : Option Value :=
  (document origin).run? text

end StandIn.Settings.Format.Ron
