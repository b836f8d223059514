import StandIn.Text.Digit

/-!
# Key paths

The names of settings are paths into a tree of values: a name, then names behind points and
numbers in brackets, as in `cert`, `tls.cert` and `certs[0]`.

* `KeyPath` — a path.
* `KeyPath.parse` — reads a path.
* `KeyPath.Error` — why a text is no path: what was expected at the place where reading stopped.
-/

namespace StandIn.Settings

/-- A path into a tree of values. -/
inductive KeyPath where
  | name (s : String)
  | child (parent : KeyPath) (name : String)
  | item (parent : KeyPath) (index : Int)
  deriving DecidableEq, Repr

namespace KeyPath

/-- What was expected where reading stopped. -/
inductive Error where
  | name
  | bracket
  | digit
  /-- The digits were there, but stand for a number that is too large. -/
  | smallerNumber
  deriving DecidableEq, Repr

/-- The wording of an error. -/
def Error.message : Error → String
  | name => "IsA"
  | bracket => "Char"
  | digit => "Digit"
  | smallerNumber => "Map on Result"

/-- The characters of names.  The space is one of them. -/
def isNameChar (c : Char) : Bool :=
  c.isAlphanum || c = ' ' || c = '_' || c = '-'

/-- Whether the character is passed over around a number. -/
def isSpace (c : Char) : Bool := c = ' ' || c = '\t'

/-- Reads the number in brackets, behind the opening one. -/
def index (cs : List Char) : Except Error (Int × List Char) :=
  let cs := cs.dropWhile isSpace
  let (negative, cs) := match cs with
    | '-' :: rest => (true, rest)
    | _ => (false, cs)
  let digits := cs.takeWhile Char.isDigit
  let n : Int := Text.numberOf 10 digits
  let n := if negative then -n else n
  if digits.isEmpty then .error .digit
  else if n < -9223372036854775808 ∨ 9223372036854775807 < n then .error .smallerNumber
  else
    match (cs.drop digits.length).dropWhile isSpace with
    | ']' :: rest => .ok (n, rest)
    | _ => .error .bracket

/-- Reads one step of a path.  What is no step behind a point is reported as a missing bracket. -/
def step (path : KeyPath) : List Char → Except Error (KeyPath × List Char)
  | '.' :: cs =>
    let name := cs.takeWhile isNameChar
    if name.isEmpty then .error .bracket
    else .ok (.child path (String.ofList name), cs.drop name.length)
  | '[' :: cs => (index cs).map fun (n, rest) => (.item path n, rest)
  | _ => .error .bracket

/-- Reads at most `bound` steps, which have to be all. -/
def steps : (bound : Nat) → KeyPath → List Char → Except Error KeyPath
  | _, path, [] => .ok path
  | 0, _, _ => .error .bracket
  | bound + 1, path, c :: cs =>
    (step path (c :: cs)).bind fun (path, rest) => steps bound path rest

/-- The path that a text stands for. -/
def parse (s : String) : Except Error KeyPath :=
  let name := s.toList.takeWhile isNameChar
  if name.isEmpty then .error .name
  else steps s.length (.name (String.ofList name)) (s.toList.drop name.length)

end KeyPath

end StandIn.Settings
