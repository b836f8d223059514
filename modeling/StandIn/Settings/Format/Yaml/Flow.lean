import StandIn.Settings.Format.Yaml.Node

/-!
# Flow collections in YAML

* `Format.Yaml.startsPlain`, `Format.Yaml.plainLine` — where scalars without quotes start and end.
* `Format.Yaml.flowNode` — lists in brackets and tables in braces, and the nodes inside of them.
-/

namespace StandIn.Settings.Format.Yaml

open Scan

/-- Whether the character has a meaning in a flow collection. -/
def isFlowMark (c : Char) : Bool :=
  c = ',' || c = '[' || c = ']' || c = '\x7b' || c = '\x7d'

/-- Whether the character cannot start a scalar without quotes anywhere. -/
def isIndicator (c : Char) : Bool :=
  isFlowMark c || "#&*!'\"%@\x60".toList.contains c

/-- Whether a scalar without quotes may start here.  A dash, and outside of collections a question
mark or a colon, starts one only if a space does not follow it. -/
def startsPlain (inFlow : Bool) : List Char → Bool
  | [] => false
  | c :: rest =>
    if c = '-' || c = '?' || c = ':' then
      (c = '-' || !inFlow) && rest.head?.any fun d => !isWordEnd d
    else if c = '|' || c = '>' then inFlow
    else !isIndicator c && !isWordEnd c

/-- What stands of a scalar without quotes on the present line: it ends at a colon with a space
after it, or at a hash with a space in front. -/
def plainLine (inFlow : Bool) : (previous : Char) → List Char → List Char
  | _, [] => []
  | previous, c :: rest =>
    if c = '\n' then []
    else if c = '#' && isSpace previous then []
    else if inFlow && isFlowMark c then []
    else if c = ':' then
      match rest with
      | [] => []
      | d :: _ =>
        if isSpace d || d = '\n' || (inFlow && isFlowMark d) then [] else c :: plainLine inFlow c rest
    else c :: plainLine inFlow c rest

/-- Reads a scalar without quotes inside of a flow collection. -/
def flowPlain : Scan String := do
  require (startsPlain true (← rest))
  let piece : Scan (List Char) := fun cs =>
    let line := plainLine true 'x' cs
    some (line, cs.drop line.length)
  let first ← piece
  let later ← many do
    char '\n'
    skipWhile isSpace
    piece
  return String.ofList (trimEnd (fold (first :: later |>.map trimEnd)))

/-- Passes spaces, line breaks and comments. -/
def flowBlanks : Scan Unit := do
  let _ ← many do
    let _ ← takeWhile1 fun c => isSpace c || c = '\n'
    let _ ← accept do
      char '#'
      skipWhile (· ≠ '\n')

/-- Reads a node that nests at most `depth` deep.  In a list a single member of a table may stand
without braces. -/
def flowNode : (depth : Nat) → Scan Node
  | 0 => fail
  | depth + 1 =>
    let items {α : Type} (item : Scan α) (closing : Char) : Scan (List α) := do
      flowBlanks
      let items ← separated (do let v ← item; flowBlanks; return v) (do char ','; flowBlanks)
      if !items.isEmpty then
        let _ ← accept (char ',')
      flowBlanks
      char closing
      return items
    let valueOf : Scan (Option Node) := do
      flowBlanks
      if ← accept (char ':') then
        flowBlanks
        let value ← maybe (flowNode depth)
        return some (value.getD .nothing)
      else return none
    let isMarkedKey : Scan Bool := accept (do char '?'; flowBlanks)
    let member : Scan (Node × Node) := do
      let _ ← isMarkedKey
      let key ← flowNode depth
      return (key, (← valueOf).getD .nothing)
    let item : Scan Node := do
      let isKey ← isMarkedKey
      let node ← flowNode depth
      match ← valueOf with
      | some value => return .table [(node, value)]
      | none => return if isKey then .table [(node, .nothing)] else node
    let content : Scan Node := first [
      do
        char '['
        return .list (← items item ']'),
      do
        char '\x7b'
        return .table (← items member '\x7d'),
      Node.quoted <$> quoted,
      Node.plain <$> flowPlain]
    first [Node.reference <$> reference, do
      let m ← marks
      if m.isEmpty then content
      else
        flowBlanks
        return .marked m ((← maybe content).getD .nothing)]

end StandIn.Settings.Format.Yaml
