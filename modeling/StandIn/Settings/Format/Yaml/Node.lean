import StandIn.Settings.Format.Yaml.Scalar

/-!
# Nodes of YAML documents

A document is read in two steps: first how it is written, then what it means.  Between the two
stands the tree of its nodes, in which a reference is still a name.

* `Format.Yaml.Node` — a node as it is written.
* `Format.Yaml.Marks` — the anchor and the tag that stand in front of a node.
* `Format.Yaml.marks`, `Format.Yaml.reference` — read them.
* `Format.Yaml.Node.meaning` — what a node means after the anchors that came before it.
-/

namespace StandIn.Settings.Format.Yaml

open Scan

/-! ## Anchors and tags -/

/-- What a tag makes of a scalar without quotes. -/
inductive Tag where
  | null | truth | whole | real | text

/-- What stands in front of a node. -/
structure Marks where
  anchor : Option String := none
  tag : Option Tag := none

/-- Whether nothing stands in front of a node. -/
def Marks.isEmpty (m : Marks) : Bool := m.anchor.isNone && m.tag.isNone

/-- Whether the character may occur in the name of an anchor. -/
def isNameChar (c : Char) : Bool := c.isAlphanum || c = '_' || c = '-'

/-- Whether the character may occur in a tag. -/
def isTagChar (c : Char) : Bool :=
  isNameChar c || ";/?:@&=+$.!~*'()[]%".toList.contains c

/-- Whether a word ends in front of this character. -/
def isWordEnd (c : Char) : Bool := isSpace c || c = '\n'

/-- Reads the name of an anchor. -/
def anchorName : Scan String := do
  let name ← takeWhile1 isNameChar
  require ((← peek?).all fun c => isWordEnd c || "?:,]\x7d%@\x60".toList.contains c)
  return String.ofList name

/-- Reads a reference to an anchor. -/
def reference : Scan String := do
  char '*'
  anchorName

/-- The tag with a name that belongs to YAML itself.  All tags it does not know keep the text. -/
def Tag.ofName : String → Tag
  | "null" => .null
  | "bool" => .truth
  | "int" => .whole
  | "float" => .real
  | _ => .text

/-- Reads a tag: `!!name` for those of YAML itself, `!name` and `!handle!name` for others, and
`!<name>` with the full name. -/
def tag : Scan Tag := do
  char '!'
  let tag ← first [
    do
      char '<'
      let _ ← takeWhile1 isTagChar
      char '>'
      return Tag.text,
    do
      let handle ← takeWhile isNameChar
      if ← accept (char '!') then
        let name ← takeWhile1 isTagChar
        return if handle.isEmpty then .ofName (String.ofList name) else .text
      else
        skipWhile isTagChar
        return .text]
  require ((← peek?).all isWordEnd)
  return tag

/-- Reads the marks in front of a node and the spaces after them. -/
def marks : Scan Marks := do
  let anchor : Scan String := do
    char '&'
    let name ← anchorName
    skipWhile isSpace
    return name
  let tag : Scan Tag := do
    let t ← tag
    skipWhile isSpace
    return t
  match ← maybe anchor with
  | some name => return ⟨some name, ← maybe tag⟩
  | none =>
    match ← maybe tag with
    | some t => return ⟨← maybe anchor, some t⟩
    | none => return {}

/-! ## Nodes -/

/-- A node as it is written.  Where a node could stand but none does is `nothing`. -/
inductive Node where
  | nothing
  | plain (text : String)
  | quoted (text : String)
  | list (items : List Node)
  | table (members : List (Node × Node))
  | reference (anchor : String)
  | marked (marks : Marks) (node : Node)
  deriving Inhabited

/-- The node with marks in front of it, if there are any. -/
def Marks.on (m : Marks) (node : Node) : Node :=
  if m.isEmpty then node else .marked m node

/-- The text of a scalar without quotes.  Behind marks it may be empty. -/
def Node.bare? : Node → Option String
  | .nothing => some ""
  | .plain s => some s
  | _ => none

/-! ## Meaning -/

/-- What a node means: its value, and the name that it is where it is a key.  Only texts and whole
numbers are names. -/
structure Meaning where
  value : Value
  name : Option String

namespace Meaning

/-- The meaning of what has no value. -/
def null : Meaning := ⟨.null, none⟩

/-- The meaning of a text, or of a whole number as it is written out. -/
def text (s : String) : Meaning := ⟨.text s, some s⟩

/-- The meaning of another scalar, or of a collection. -/
def nameless (v : Value) : Meaning := ⟨v, none⟩

/-- The meaning of a scalar without quotes and without a tag. -/
def ofPlain? (s : String) : Option Meaning :=
  (plainValue? s).map fun v => ⟨v, keyOf? s⟩

/-- The meaning of a scalar without quotes that has a tag.  If the tag does not fit, it has no
value. -/
def ofTagged? (s : String) : Tag → Option Meaning
  | .null => some null
  | .truth => some (if s = "true" ∨ s = "false" then nameless (.text s) else null)
  | .whole => some ((((integer? 10 s.toList).bind Decimal.whole?).map text).getD null)
  | .real =>
    if unusable.contains s then none
    else some (((Decimal.real? s).map fun t => nameless (.text t)).getD null)
  | .text => some (text s)

end Meaning

/-- What the anchors so far mean, the latest one first. -/
abbrev Anchors := List (String × Meaning)

/-- Gives an anchor, if there is one, a meaning. -/
def Marks.define (m : Marks) (meaning : Meaning) : StateT Anchors Option Unit :=
  modify fun anchors => (m.anchor.map fun name => (name, meaning)).toList ++ anchors

/-- The meaning of a node.  A reference means what the last anchor of its name means, which has no
value before its own node ends. -/
def Node.meaning (origin : Option String) : Node → StateT Anchors Option Meaning
  | .nothing => return .null
  | .plain s => fun anchors => (Meaning.ofPlain? s).map (·, anchors)
  | .quoted s => return .text s
  | .list items => do return .nameless (.list (← meanings items) origin)
  | .table members => do return .nameless (.table (Members.ofList (← entries members)))
  | .reference name => fun anchors => (anchors.lookup name).map (·, anchors)
  | .marked m node => do
    m.define .null
    let meaning ← match m.tag, node.bare? with
      | some tag, some s => fun anchors => (Meaning.ofTagged? s tag).map (·, anchors)
      | none, some "" => pure (.text "")
      | _, _ => node.meaning origin
    m.define meaning
    return meaning
where
  /-- The values of the nodes of a list. -/
  meanings : List Node → StateT Anchors Option (List Value)
    | [] => return []
    | node :: rest => do
      let m ← node.meaning origin
      return m.value :: (← meanings rest)
  /-- The members that pairs of nodes stand for.  Each key has to be a name. -/
  entries : List (Node × Node) → StateT Anchors Option (List (String × Value))
    | [] => return []
    | (key, value) :: rest => do
      let k ← key.meaning origin
      let name ← (fun anchors => k.name.map (·, anchors) : StateT Anchors Option String)
      let v ← value.meaning origin
      return (name, v.value) :: (← entries rest)

/-- The value of a whole document. -/
def Node.value? (origin : Option String) (node : Node) : Option Value :=
  ((node.meaning origin).run []).map (·.1.value)

end StandIn.Settings.Format.Yaml
