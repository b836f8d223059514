import StandIn.Settings.Value
import StandIn.Text.Blank
import StandIn.Text.Digit
import StandIn.Text.Scan

/-!
# Settings in INI files

* `Format.Ini.Item` — an entry, or the heading of a section.
* `Format.Ini.read?` — the table that a file holds: entries before the first heading stand in the
  table itself, those below a heading in a table of their own.

A key ends at the first `=` or `:`, a value at the end of its line.  Comments take whole lines.
-/

namespace StandIn.Settings.Format.Ini

open Scan

/-- An entry, or the heading of a section. -/
inductive Item where
  | entry (key value : String)
  | heading (name : String)

/-- Reads what follows a backslash. -/
def escaped : Scan (List Char) := do
  match ← any with
  | '0' => return ['\x00']
  | 'a' => return ['\x07']
  | 'b' => return ['\x08']
  | 't' => return ['\t']
  | 'r' => return ['\r']
  | 'n' => return ['\n']
  | '\n' => return []
  | 'x' =>
    let mut n := 0
    for _ in [0, 1, 2, 3] do
      n := n * 16 + (← ofOption (Text.digitValue? (← any)))
    require (n < 0xD800 || 0xE000 ≤ n)
    return [Char.ofNat n]
  | c => return [c]

/-- Reads up to a character that satisfies `stop`, with escapes. -/
def upTo (stop : Char → Bool) : Scan (List Char) := do
  let parts ← many do
    let c ← satisfy (!stop ·)
    if c = '\\' then escaped else return [c]
  return parts.flatten

/-- Whether the character ends a line. -/
def endsLine (c : Char) : Bool := c = '\n' || c = '\r'

/-- The text without white space at its end. -/
def trimEnd (cs : List Char) : List Char :=
  (cs.reverse.dropWhile Text.isBlank).reverse

/-- Reads a part of a value between quotes. -/
def quoted : Scan (List Char) := do
  let quote ← satisfy fun c => c = '"' || c = '\''
  let cs ← upTo (· = quote)
  char quote
  return cs

/-- Reads a value: parts in quotes, and then the rest of the line. -/
def value : Scan String := do
  skipWhile fun c => Text.isBlank c && !endsLine c
  let parts ← many quoted
  let tail ← upTo endsLine
  require ((← peek?).all endsLine)
  let tail := trimEnd (if parts.isEmpty then tail.dropWhile Text.isBlank else tail)
  return String.ofList (parts.flatten ++ tail)

/-- Reads an entry. -/
def entry : Scan Item := do
  let key ← upTo fun c => c = '=' || c = ':'
  let _ ← satisfy fun c => c = '=' || c = ':'
  let key := trimEnd key
  require !key.isEmpty
  return .entry (String.ofList key) (← value)

/-- Reads the heading of a section. -/
def heading : Scan Item := do
  char '['
  let name ← upTo (· = ']')
  char ']'
  return .heading (String.ofList (trimEnd (name.dropWhile Text.isBlank)))

/-- Reads at most `bound` items.  A comment has to start a line; `fresh` tells whether nothing of
the line was read so far. -/
def items (fresh : Bool) : (bound : Nat) → Scan (List Item)
  | 0 => pure []
  | bound + 1 => do
    let blanks ← takeWhile Text.isBlank
    let fresh := if blanks.isEmpty then fresh else blanks.getLast? = some '\n'
    match ← peek? with
    | none => return []
    | some c =>
      if c = ';' || c = '#' then
        require fresh
        skipWhile (· ≠ '\n')
        items true bound
      else
        let item ← if c = '[' then heading else entry
        let later ← items false bound
        return item :: later

/-- Adds an item to a table, below the heading in force. -/
def add : Option String × Members → Item → Option String × Members
  | (_, ms), .heading name => (some name, ms.insert name (.table []))
  | (none, ms), .entry key value => (none, ms.insert key (.text value))
  | (some name, ms), .entry key value =>
    match ms.get? name with
    | some (.table inner) =>
      (some name, ms.insert name (.table (Members.insert inner key (.text value))))
    | _ => (some name, ms.insert name (.table [(key, .text value)]))

/-- The table that a file holds. -/
def read? (text : String) : Option Value :=
  ((items true (text.length + 1)).run? text).map fun found =>
    .table (found.foldl add (none, [])).2

end StandIn.Settings.Format.Ini
