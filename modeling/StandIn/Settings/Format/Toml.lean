import StandIn.Decimal.Reader
import StandIn.Settings.Format.Toml.Document
import StandIn.Settings.Format.Toml.Moment

/-!
# Settings in TOML

* `Format.Toml.read?` — the table that a TOML file holds.
* `Format.Toml.value` — values; arrays and tables inside of them nest at most 80 deep.
-/

namespace StandIn.Settings.Format.Toml

open Scan Decimal

/-- The deepest nesting of values. -/
def maxDepth : Nat := 80

/-- Whether the character may stand in a comment or a string. -/
def isPlain (c : Char) : Bool :=
  c = '\t' || (0x20 ≤ c.toNat && c.toNat ≠ 0x7F)

/-- Passes spaces and tabs. -/
def spaces : Scan Unit := skipWhile fun c => c = ' ' || c = '\t'

/-- Reads the end of a line. -/
def newline : Scan Unit := first [char '\n', word "\r\n"]

/-- Reads a comment. -/
def comment : Scan Unit := do
  char '#'
  skipWhile isPlain

/-- Passes spaces, comments and ends of lines. -/
def blanks : Scan Unit := do
  let _ ← many (first [(fun _ => ()) <$> takeWhile1 (fun c => c = ' ' || c = '\t'), newline,
    do comment; newline])

/-! ## Strings -/

/-- Reads the code point that `count` digits in base 16 stand for. -/
def codePoint (count : Nat) : Scan Char := do
  let mut n := 0
  for _ in List.range count do
    n := n * 16 + (← ofOption (Text.digitValue? (← any)))
  require (n < 0xD800 || (0xE000 ≤ n && n < 0x110000))
  return Char.ofNat n

/-- Reads what follows a backslash. -/
def escaped : Scan Char := do
  match ← any with
  | 'b' => return '\x08'
  | 't' => return '\t'
  | 'n' => return '\n'
  | 'f' => return '\x0c'
  | 'r' => return '\r'
  | '"' => return '"'
  | '\\' => return '\\'
  | 'u' => codePoint 4
  | 'U' => codePoint 8
  | _ => fail

/-- Reads a string on one line. -/
def basicString : Scan String := do
  char '"'
  let cs ← many do
    let c ← any
    if c = '\\' then escaped
    else
      require (c ≠ '"' && isPlain c)
      return c
  char '"'
  return String.ofList cs

/-- Reads a string on one line without escapes. -/
def literalString : Scan String := do
  char '\''
  let cs ← takeWhile fun c => c ≠ '\'' && isPlain c
  char '\''
  return String.ofList cs

/-- Reads a string over several lines between three quotes.  At its end one or two more quotes may
stand, which belong to it. -/
def longString (quote : Char) (inside : Scan (List Char)) : Scan String := do
  word (String.ofList [quote, quote, quote])
  let _ ← accept newline
  let run : Scan (List Char) := do
    let quotes ← takeWhile1 (· = quote)
    require (quotes.length < 3)
    return quotes
  let parts ← many (first [run, inside, (fun _ => ['\n']) <$> newline])
  let quotes ← takeWhile (· = quote)
  require (3 ≤ quotes.length && quotes.length ≤ 5)
  return String.ofList (parts.flatten ++ quotes.drop 3)

/-- Reads a backslash at the end of a line, with all white space up to the next character. -/
def continued : Scan (List Char) := do
  char '\\'
  spaces
  newline
  let _ ← many (first [newline, (fun _ => ()) <$> takeWhile1 fun c => c = ' ' || c = '\t'])
  return []

/-- Reads a string of any kind. -/
def string : Scan String :=
  first [
    longString '"' (first [continued, do char '\\'; return [← escaped],
      (fun c => [c]) <$> satisfy fun c => c ≠ '"' && c ≠ '\\' && isPlain c]),
    longString '\'' ((fun c => [c]) <$> satisfy fun c => c ≠ '\'' && isPlain c),
    basicString, literalString]

/-- Reads a name with points in it. -/
def path : Scan (List String) := do
  let bare := String.ofList <$> takeWhile1 fun c => c.isAlphanum || c = '_' || c = '-'
  let part : Scan String := do
    spaces
    let name ← first [bare, basicString, literalString]
    spaces
    return name
  separated1 part (char '.')

/-! ## Numbers -/

/-- Reads digits, between two of which an underscore may stand. -/
def grouped (p : Char → Bool) : Scan (List Char) := do
  let groups ← separated1 (takeWhile1 p) (char '_')
  return groups.flatten

/-- Reads a whole number in base 2, 8 or 16, or in base 10 with a sign. -/
def whole : Scan String :=
  let based (mark : String) (base : Nat) : Scan String := do
    word mark
    ofOption (whole? (Text.numberOf base (← grouped (Text.isDigitOf base))))
  first [based "0x" 16, based "0o" 8, based "0b" 2, do
    let negative ← sign
    let ds ← grouped Char.isDigit
    require (ds.length = 1 || ds.head? ≠ some '0')
    ofOption (whole? (signed negative (Text.numberOf 10 ds)))]

/-- Reads a number with a fraction or an exponent. -/
def real : Scan String :=
  first [
    do
      let negative ← sign
      first [(fun _ => if negative then "-inf" else "inf") <$> word "inf",
        (fun _ => "NaN") <$> word "nan"],
    do
      let negative ← sign
      let ds ← grouped Char.isDigit
      require (ds.length = 1 || ds.head? ≠ some '0')
      let fraction ← maybe do
        char '.'
        grouped Char.isDigit
      let e ← maybe do
        let _ ← satisfy fun c => c = 'e' || c = 'E'
        let negative ← sign
        return signed negative (Text.numberOf 10 (← grouped Char.isDigit))
      require (fraction.isSome || e.isSome)
      let x := Binary64.ofScientific (Text.numberOf 10 (ds ++ fraction.getD []))
        (e.getD 0 - (fraction.getD []).length)
      require (negative || x ≠ .infinite)
      return x.render negative]

/-! ## Values -/

/-- Reads a value that nests at most `depth` deep. -/
def value (origin : Option String) : (depth : Nat) → Scan Value
  | 0 => fail
  | depth + 1 =>
    let array : Scan Value := do
      char '['
      blanks
      let items ← separated (do let v ← value origin depth; blanks; return v)
        (do char ','; blanks)
      if !items.isEmpty then
        let _ ← accept (char ',')
      blanks
      char ']'
      return .list items origin
    let entry : Scan Statement := do
      let path ← path
      char '='
      spaces
      let v ← value origin depth
      spaces
      return .entry path v
    let table : Scan Value := do
      char '\x7b'
      let entries ← separated entry (char ',')
      spaces
      char '\x7d'
      ofOption (build? origin entries)
    first [.text <$> string, array, table, (fun _ => .text "true") <$> word "true",
      (fun _ => .text "false") <$> word "false", .text <$> moment, .text <$> real,
      .text <$> whole]

/-! ## Documents -/

/-- Reads a statement. -/
def statement (origin : Option String) : Scan Statement :=
  first [
    do
      word "[["
      let path ← path
      word "]]"
      return .listHeading path,
    do
      char '['
      let path ← path
      char ']'
      return .heading path,
    do
      let path ← path
      char '='
      spaces
      return .entry path (← value origin maxDepth)]

/-- Reads a line, which may hold a statement and a comment. -/
def line (origin : Option String) : Scan (Option Statement) := do
  spaces
  let s ← maybe (statement origin)
  spaces
  let _ ← accept comment
  return s

/-- Reads all statements of a document.  A byte order mark may stand in front. -/
def document (origin : Option String) : Scan (List Statement) := do
  let _ ← accept (char '\uFEFF')
  let lines ← separated1 (line origin) newline
  return lines.filterMap id

/-- The table that a file holds. -/
def read? (origin : Option String) (text : String) : Option Value :=
  (document origin).run? text >>= build? origin

end StandIn.Settings.Format.Toml
