import StandIn.Settings.Format.Yaml.Flow

/-!
# Settings in YAML

Block collections are told by how far their lines are indented.

* `Format.Yaml.Line` — a line and its indentation.
* `Format.Yaml.block` — the node that starts at the next line.
* `Format.Yaml.read?` — the value of a file that holds at most one document.  A file without any is
  an empty table.
-/

namespace StandIn.Settings.Format.Yaml

open Scan

/-! ## Lines -/

/-- A line, without the spaces in front of it. -/
structure Line where
  indent : Nat
  chars : List Char

/-- The line with the given characters. -/
def Line.ofChars (cs : List Char) : Line :=
  ⟨(cs.takeWhile (· = ' ')).length, cs.dropWhile (· = ' ')⟩

/-- The characters of a line. -/
def Line.toChars (l : Line) : List Char :=
  List.replicate l.indent ' ' ++ l.chars

/-- The lines of a text. -/
def linesOf : List Char → List (List Char)
  | [] => [[]]
  | '\r' :: '\n' :: rest => [] :: linesOf rest
  | c :: rest =>
    if c = '\n' || c = '\r' then [] :: linesOf rest
    else
      match linesOf rest with
      | line :: lines => (c :: line) :: lines
      | [] => [[c]]

/-- Whether the line has nothing but spaces and a comment. -/
def Line.isBlank (l : Line) : Bool :=
  match l.chars.dropWhile isSpace with
  | [] => true
  | c :: _ => c = '#'

/-- The lines from the next one on that has something. -/
def skipBlank (ls : List Line) : List Line :=
  ls.dropWhile Line.isBlank

/-- Whether nothing follows but spaces and a comment. -/
def isTrailing (cs : List Char) : Bool :=
  match cs.dropWhile isSpace with
  | [] => true
  | '#' :: _ => (cs.headD 'x') ≠ '#'
  | _ => false

/-! ## Scalars and flow collections that start on a line -/

/-- What a reader makes of the rest of a line and the lines below that are indented by at least
`least`, and the lines left over.  On the line where the reader ends nothing else may stand. -/
def onLines {α : Type} (reader : Scan α) (least : Nat) (cs : List Char) (below : List Line) :
    Option (α × List Line) := do
  let inside := below.takeWhile fun l => l.chars.isEmpty || least ≤ l.indent
  let text := cs ++ inside.flatMap fun l => '\n' :: l.toChars
  let (a, rest) ← reader text
  match linesOf rest with
  | tail :: unused =>
    if isTrailing (' ' :: tail) then
      some (a, unused.map Line.ofChars ++ below.drop inside.length)
    else none
  | [] => none

/-- A scalar without quotes, which goes on over lines that are indented by at least `least`. -/
def plainBlock (least : Nat) (cs : List Char) (below : List Line) : Option (String × List Line) :=
  if !startsPlain false cs then none
  else
    let first := plainLine false 'x' cs
    if !isTrailing (' ' :: cs.drop first.length) then none
    else if first.length < cs.length && (cs.drop first.length).any (· = '#') then
      some (String.ofList (trimEnd first), below)
    else continueLines [trimEnd first] below
where
  /-- Adds the lines that continue a scalar, given those before in reverse. -/
  continueLines (before : List (List Char)) : List Line → Option (String × List Line)
    | [] => some (String.ofList (fold (before.dropWhile List.isEmpty).reverse), [])
    | l :: ls =>
      if l.chars.isEmpty then continueLines ([] :: before) ls
      else if l.indent < least || l.chars.head? = some '#' then
        some (String.ofList (fold (before.dropWhile List.isEmpty).reverse), l :: ls)
      else
        let line := plainLine false ' ' l.chars
        if !isTrailing (' ' :: l.chars.drop line.length) then none
        else continueLines (trimEnd line :: before) ls

/-- How line breaks at the end of a block scalar are treated. -/
inductive Chomping where
  | clip | strip | keep

/-- The heading of a block scalar behind its first character: how it ends, and how far it is
indented if that is given. -/
def blockHeading (cs : List Char) : Option (Chomping × Option Nat) :=
  let marks := cs.takeWhile fun c => c = '+' || c = '-' || c.isDigit
  if !isTrailing (cs.drop marks.length) || 2 < marks.length then none
  else
    let chomping := if marks.contains '-' then .strip else if marks.contains '+' then .keep else .clip
    let digit := marks.find? Char.isDigit
    if digit = some '0' then none
    else some (chomping, digit.map fun c => c.toNat - 48)

/-- The text of a block scalar below a line indented by `parent`. -/
def blockScalar (folded : Bool) (chomping : Chomping) (explicit : Option Nat) (parent : Nat)
    (below : List Line) : String × List Line :=
  let indent := match explicit with
    | some n => parent + n
    | none => max (parent + 1) (((below.find? (!·.chars.isEmpty)).map Line.indent).getD 0)
  let inside := below.takeWhile fun l => l.chars.isEmpty || indent ≤ l.indent
  let lines := inside.map fun l => l.toChars.drop indent
  let content := (lines.reverse.dropWhile List.isEmpty).reverse
  let trailing := lines.length - content.length
  let body := if folded then fold content else (content.intersperse ['\n']).flatten
  let ending := match chomping with
    | .strip => []
    | .clip => if content.isEmpty then [] else ['\n']
    | .keep => List.replicate (trailing + 1) '\n'
  (String.ofList (body ++ ending), below.drop inside.length)

/-- The node that starts on the rest of a line, below which lines belong to it that are indented
by at least `least`. -/
def inlineNode (parent least : Nat) (cs : List Char) (below : List Line) :
    Option (Node × List Line) :=
  match cs with
  | '|' :: marks => (blockHeading marks).map fun (chomping, explicit) =>
    let (s, rest) := blockScalar false chomping explicit parent below
    (.quoted s, rest)
  | '>' :: marks => (blockHeading marks).map fun (chomping, explicit) =>
    let (s, rest) := blockScalar true chomping explicit parent below
    (.quoted s, rest)
  | c :: _ =>
    if c = '*' then onLines (Node.reference <$> reference) least cs below
    else if c = '"' || c = '\'' then onLines (Node.quoted <$> quoted) least cs below
    else if c = '[' || c = '\x7b' then
      let size := below.foldl (fun n l => n + l.chars.length) cs.length
      onLines (flowNode (size + 1)) least cs below
    else (plainBlock least cs below).map fun (s, rest) => (.plain s, rest)
  | [] => none

/-! ## Block collections -/

/-- The key at the front of a line and what follows its colon. -/
def splitKey (cs : List Char) : Option (Node × List Char) :=
  let plain : Scan Node := do
    require (startsPlain false (← rest))
    let line := plainLine false 'x' (← rest)
    let _ ← (fun cs => some ((), cs.drop line.length) : Scan Unit)
    return .plain (String.ofList (trimEnd line))
  let key : Scan (Node × List Char) := do
    let node ← first [Node.reference <$> reference, do
      let m ← marks
      return m.on (← first [Node.quoted <$> quoted, plain])]
    skipWhile isSpace
    char ':'
    require ((← peek?).all isSpace)
    skipWhile isSpace
    return (node, ← rest)
  (key cs).map (·.1)

/-- What follows a character that stands for itself at the front of a line: the dash of an item, or
the question mark and the colon of a member that is spread over lines. -/
def splitMark (mark : Char) : List Char → Option (List Char)
  | [] => none
  | c :: rest => if c = mark && rest.head?.all isSpace then some rest else none

/-- What follows the dash of an item. -/
def splitItem : List Char → Option (List Char) := splitMark '-'

/-- What follows such a mark, as a line of its own behind the given column. -/
def behindMark (column : Nat) (cs : List Char) : Line :=
  Line.ofChars (List.replicate (column + 1) ' ' ++ cs)

/-- The node that starts at the next line, in `bound` steps.  Its lines are indented by at least
`least`. -/
def block : (bound : Nat) → (least : Nat) → List Line → Option (Node × List Line)
  | 0, _, _ => none
  | bound + 1, least, ls =>
    match skipBlank ls with
    | [] => some (.nothing, [])
    | l :: below =>
      if l.indent < least then some (.nothing, l :: below)
      else if (splitItem l.chars).isSome then
        (items bound l.indent (l :: below)).map fun (nodes, rest) => (.list nodes, rest)
      else if (splitMark '?' l.chars).isSome || (splitKey l.chars).isSome then
        (members bound l.indent (l :: below)).map fun (ms, rest) => (.table ms, rest)
      else do
        let (m, cs) ← marks l.chars
        let (node, rest) ←
          if !m.isEmpty && isTrailing (' ' :: cs) then block bound least below
          else inlineNode (least - 1) least cs below
        return (m.on node, rest)
where
  /-- The items of a list whose dashes stand in the given column. -/
  items : (bound : Nat) → (column : Nat) → List Line → Option (List Node × List Line)
    | 0, _, _ => none
    | bound + 1, column, ls =>
      match skipBlank ls with
      | [] => some ([], [])
      | l :: below =>
        if l.indent < column then some ([], l :: below)
        else if l.indent ≠ column then none
        else
          match splitItem l.chars with
          | none => some ([], l :: below)
          | some cs => do
            let (node, rest) ← block bound (column + 1) (behindMark column cs :: below)
            let (nodes, rest) ← items bound column rest
            return (node :: nodes, rest)
  /-- The members of a table whose keys stand in the given column.  The items of a list that is a
  member may stand in the same column. -/
  members : (bound : Nat) → (column : Nat) → List Line → Option (List (Node × Node) × List Line)
    | 0, _, _ => none
    | bound + 1, column, ls =>
      match skipBlank ls with
      | [] => some ([], [])
      | l :: below =>
        if l.indent < column || (l.indent = column && (splitItem l.chars).isSome) then
          some ([], l :: below)
        else if l.indent ≠ column then none
        else
          match splitMark '?' l.chars, splitKey l.chars with
          | none, none => none
          | some cs, _ => do
            let (key, rest) ← block bound (column + 1) (behindMark column cs :: below)
            let (node, rest) ←
              match skipBlank rest with
              | [] => some (.nothing, [])
              | next :: below =>
                match splitMark ':' next.chars with
                | some cs =>
                  if next.indent = column then
                    block bound (column + 1) (behindMark column cs :: below)
                  else some (.nothing, next :: below)
                | none => some (.nothing, next :: below)
            let (ms, rest) ← members bound column rest
            return ((key, node) :: ms, rest)
          | none, some (key, cs) => do
            let (m, cs) ← marks cs
            let (node, rest) ←
              if isTrailing (' ' :: cs) then
                match skipBlank below with
                | next :: rest =>
                  if next.indent = column && (splitItem next.chars).isSome then
                    (items bound column (next :: rest)).map fun (nodes, rest) =>
                      (Node.list nodes, rest)
                  else block bound (column + 1) (next :: rest)
                | [] => some (.nothing, [])
              else inlineNode column (column + 1) cs below
            let (ms, rest) ← members bound column rest
            return ((key, m.on node) :: ms, rest)

/-! ## Documents -/

/-- Whether a line is the given mark, with a space or nothing after it. -/
def isMark (mark : String) (cs : List Char) : Bool :=
  mark.toList.isPrefixOf cs && ((cs.drop mark.length).head?).all isSpace

/-- The node that a single document consists of. -/
def document? (lines : List (List Char)) : Option Node :=
  let ls := lines.map Line.ofChars
  let bound := 2 * ls.foldl (fun n l => n + l.chars.length) ls.length + 2
  match block bound 0 ls with
  | some (node, rest) => if (skipBlank rest).isEmpty then some node else none
  | none => none

/-- The documents found so far and the lines of the one that is open, all in reverse. -/
structure Documents where
  closed : List (List (List Char)) := []
  current : Option (List (List Char)) := none

/-- Closes the document that is open. -/
def Documents.close (d : Documents) : Documents :=
  match d.current with
  | some lines => ⟨lines.reverse :: d.closed, none⟩
  | none => d

/-- Takes in a line.  Three dashes open a document, three points close one; between documents there
are only directives and comments. -/
def Documents.push (d : Documents) (l : List Char) : Documents :=
  if isMark "---" l then { d.close with current := some [l.drop 3] }
  else if isMark "..." l then d.close
  else
    match d.current with
    | some lines => { d with current := some (l :: lines) }
    | none =>
      if l.head? = some '%' || (Line.ofChars l).isBlank then d else { d with current := some [l] }

/-- The documents of a file. -/
def documents (lines : List (List Char)) : List (List (List Char)) :=
  (lines.foldl Documents.push {}).close.closed.reverse

/-- The value of a file. -/
def read? (origin : Option String) (text : String) : Option Value :=
  let cs := match text.toList with
    | '\uFEFF' :: rest => rest
    | cs => cs
  match documents (linesOf cs) with
  | [] => some (.table [])
  | [d] => (document? d).bind (·.value? origin)
  | _ => none

end StandIn.Settings.Format.Yaml
