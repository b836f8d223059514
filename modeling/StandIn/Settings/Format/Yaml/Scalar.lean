import StandIn.Decimal.Reader
import StandIn.Settings.Value

/-!
# Scalars in YAML

* `Format.Yaml.plainValue?` — what a scalar without quotes stands for.
* `Format.Yaml.keyOf?` — the name that it stands for as a key.
* `Format.Yaml.fold` — the text of a scalar over several lines.
* `Format.Yaml.quoted` — scalars in quotes.
-/

namespace StandIn.Settings.Format.Yaml

open Scan Decimal

/-- The whole number that a text with or without a sign stands for. -/
def integer? (base : Nat) (cs : List Char) : Option Int :=
  let (negative, digits) := match cs with
    | '-' :: rest => (true, rest)
    | '+' :: rest => (false, rest)
    | _ => (false, cs)
  if digits.isEmpty || !digits.all (Text.isDigitOf base) then none
  else some (signed negative (Text.numberOf base digits))

/-- The text of the whole number that a scalar stands for. -/
def wholeText? (cs : List Char) : Option String :=
  let marked := match cs with
    | '0' :: 'x' :: rest => integer? 16 rest
    | '0' :: 'o' :: rest => integer? 8 rest
    | '+' :: rest => integer? 10 rest
    | _ => none
  (marked.bind whole?).or ((integer? 10 cs).bind whole?)

/-- The spellings of infinity and of no number that are recognised, but stand for no number that a
setting could hold. -/
def unusable : List String :=
  [".inf", ".Inf", ".INF", "+.inf", "+.Inf", "+.INF", "-.inf", "-.Inf", "-.INF", ".nan", ".NAN"]

/-- What a scalar without quotes stands for. -/
def plainValue? (s : String) : Option Value :=
  if s = "~" ∨ s = "null" then some .null
  else
    match wholeText? s.toList with
    | some text => some (.text text)
    | none =>
      if unusable.contains s then none
      else some (.text ((real? s).getD s))

/-- The name that a key without quotes stands for.  It has to be a text or a whole number. -/
def keyOf? (s : String) : Option String :=
  if s = "~" ∨ s = "null" ∨ s = "true" ∨ s = "false" then none
  else
    match wholeText? s.toList with
    | some text => some text
    | none => if unusable.contains s || (real? s).isSome then none else some s

/-- Whether the character is a space or a tab. -/
def isSpace (c : Char) : Bool := c = ' ' || c = '\t'

/-- The text without spaces at its end. -/
def trimEnd (cs : List Char) : List Char :=
  (cs.reverse.dropWhile isSpace).reverse

/-- Lines made into one: a break between two lines becomes a space, and empty lines become
breaks. -/
def fold : List (List Char) → List Char
  | [] => []
  | [line] => line
  | line :: rest => line ++ foldRest 0 rest
where
  /-- The lines after the first; `empty` counts the empty ones just passed. -/
  foldRest (empty : Nat) : List (List Char) → List Char
    | [] => []
    | line :: rest =>
      if line.isEmpty && !rest.isEmpty then foldRest (empty + 1) rest
      else
        (if empty = 0 then [' '] else List.replicate empty '\n') ++ line ++ foldRest 0 rest

/-- Reads a line break inside of quotes, with the spaces around it and all empty lines. -/
def foldedBreak : Scan (List Char) := do
  skipWhile isSpace
  char '\n'
  skipWhile isSpace
  let empty ← many do
    char '\n'
    skipWhile isSpace
  return if empty.isEmpty then [' '] else List.replicate empty.length '\n'

/-- Reads `count` digits in base 16. -/
def codePoint (count : Nat) : Scan Char := do
  let mut n := 0
  for _ in List.range count do
    n := n * 16 + (← ofOption (Text.digitValue? (← any)))
  require (n < 0xD800 || (0xE000 ≤ n && n < 0x110000))
  return Char.ofNat n

/-- Reads what follows a backslash.  A line break is passed over with the spaces after it. -/
def escaped : Scan (List Char) := do
  match ← any with
  | '0' => return ['\x00']
  | 'a' => return ['\x07']
  | 'b' => return ['\x08']
  | 't' | '\t' => return ['\t']
  | 'n' => return ['\n']
  | 'v' => return ['\x0b']
  | 'f' => return ['\x0c']
  | 'r' => return ['\r']
  | 'e' => return ['\x1b']
  | ' ' => return [' ']
  | '"' => return ['"']
  | '\'' => return ['\'']
  | '\\' => return ['\\']
  | '/' => return ['/']
  | 'N' => return ['\u0085']
  | '_' => return ['\u00A0']
  | 'L' => return ['\u2028']
  | 'P' => return ['\u2029']
  | 'x' => return [← codePoint 2]
  | 'u' => return [← codePoint 4]
  | 'U' => return [← codePoint 8]
  | '\n' =>
    skipWhile isSpace
    return []
  | _ => fail

/-- Reads a scalar in quotes. -/
def quoted : Scan String :=
  first [
    do
      char '\''
      let parts ← many (first [(fun _ => ['\'']) <$> word "''", foldedBreak,
        (fun c => [c]) <$> satisfy (· ≠ '\'')])
      char '\''
      return String.ofList parts.flatten,
    do
      char '"'
      let parts ← many (first [do char '\\'; escaped, foldedBreak,
        (fun c => [c]) <$> satisfy fun c => c ≠ '"' && c ≠ '\\'])
      char '"'
      return String.ofList parts.flatten]

end StandIn.Settings.Format.Yaml
