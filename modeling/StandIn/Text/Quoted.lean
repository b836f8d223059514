import StandIn.Text.Unprintable

/-!
# Quoted text

How a text from outside is shown in an error message: between quotes, on one line, and with
everything spelled out that a reader could not see.

* `Quoted.escape` — one character.
* `Quoted.quote` — a text.
-/

namespace StandIn.Quoted

/-- The digits of a number in base 16, in lower case. -/
def hex (n : Nat) : List Char :=
  Nat.toDigits 16 n

/-- A character between quotes: a backslash form where there is one, the number of the code point
where the character has no shape, and the character itself otherwise. -/
def escape (c : Char) : List Char :=
  if c = '\x00' then ['\\', '0']
  else if c = '\t' then ['\\', 't']
  else if c = '\r' then ['\\', 'r']
  else if c = '\n' then ['\\', 'n']
  else if c = '"' then ['\\', '"']
  else if c = '\\' then ['\\', '\\']
  else if Unprintable.holds c then ['\\', 'u', '\x7b'] ++ hex c.toNat ++ ['\x7d']
  else [c]

/-- A text between quotes. -/
def quote (s : String) : String :=
  String.ofList ('"' :: s.toList.flatMap escape ++ ['"'])

end StandIn.Quoted
