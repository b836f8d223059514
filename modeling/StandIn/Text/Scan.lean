/-!
# Scanning text

Small readers that take characters off the front of a text, for the formats that settings files
come in.  A reader either fails or gives a value and what is left.  There are no messages: a file
either has the form that it should have or not.

* `Scan` — a reader.
* `Scan.satisfy`, `Scan.char`, `Scan.word`, `Scan.takeWhile` — the smallest readers.
* `Scan.many`, `Scan.separated` — repetition.  A reader that is repeated must take something.
* `Scan.run?` — reads a whole text.
-/

namespace StandIn

/-- A reader that takes characters off the front of a text. -/
abbrev Scan := StateT (List Char) Option

namespace Scan

/-- Fails. -/
def fail {α : Type} : Scan α := fun _ => none

/-- Succeeds only if the condition holds. -/
def require (b : Bool) : Scan Unit := if b then pure () else fail

/-- The value, if there is one. -/
def ofOption {α : Type} : Option α → Scan α
  | some a => pure a
  | none => fail

/-- What is left. -/
def rest : Scan (List Char) := fun cs => some (cs, cs)

/-- The next character, which stays there. -/
def peek? : Scan (Option Char) := fun cs => some (cs.head?, cs)

/-- Whether nothing is left. -/
def atEnd : Scan Bool := fun cs => some (cs.isEmpty, cs)

/-- One character that satisfies `p`. -/
def satisfy (p : Char → Bool) : Scan Char
  | c :: cs => if p c then some (c, cs) else none
  | [] => none

/-- Any character. -/
def any : Scan Char := satisfy fun _ => true

/-- The given character. -/
def char (c : Char) : Scan Unit := do
  let _ ← satisfy (· = c)

/-- The given text. -/
def word (s : String) : Scan Unit := fun cs =>
  if s.toList.isPrefixOf cs then some ((), cs.drop s.length) else none

/-- All characters in front that satisfy `p`. -/
def takeWhile (p : Char → Bool) : Scan (List Char) := fun cs =>
  some (cs.takeWhile p, cs.dropWhile p)

/-- All characters in front that satisfy `p`, of which there must be one. -/
def takeWhile1 (p : Char → Bool) : Scan (List Char) := do
  let taken ← takeWhile p
  require !taken.isEmpty
  return taken

/-- Passes the characters that satisfy `p`. -/
def skipWhile (p : Char → Bool) : Scan Unit := fun cs => some ((), cs.dropWhile p)

/-- Tries one reader and, where it fails, another one from the same place. -/
def orElse {α : Type} (a b : Scan α) : Scan α := fun cs => (a cs).or (b cs)

/-- Tries readers in turn. -/
def first {α : Type} : List (Scan α) → Scan α
  | [] => fail
  | a :: as => orElse a (first as)

/-- The reader's value, or none where it fails. -/
def maybe {α : Type} (a : Scan α) : Scan (Option α) := orElse (some <$> a) (pure none)

/-- Whether the reader succeeds; what it takes is taken. -/
def accept {α : Type} (a : Scan α) : Scan Bool := orElse ((fun _ => true) <$> a) (pure false)

/-- Reads until the reader fails or takes nothing, at most `bound` times. -/
def manyUpTo {α : Type} (a : Scan α) : (bound : Nat) → Scan (List α)
  | 0 => pure []
  | bound + 1 => fun cs =>
    match a cs with
    | some (x, cs') =>
      if cs'.length < cs.length then ((x :: ·) <$> manyUpTo a bound) cs' else some ([], cs)
    | none => some ([], cs)

/-- Reads as often as possible. -/
def many {α : Type} (a : Scan α) : Scan (List α) := fun cs => manyUpTo a cs.length cs

/-- Reads at least once, with `separator` in between. -/
def separated1 {α β : Type} (a : Scan α) (separator : Scan β) : Scan (List α) := do
  let x ← a
  let xs ← many (do let _ ← separator; a)
  return x :: xs

/-- Reads with `separator` in between, if anything can be read. -/
def separated {α β : Type} (a : Scan α) (separator : Scan β) : Scan (List α) :=
  orElse (separated1 a separator) (pure [])

/-- What the reader makes of a whole text. -/
def run? {α : Type} (a : Scan α) (s : String) : Option α :=
  match a s.toList with
  | some (x, []) => some x
  | _ => none

end Scan

end StandIn
