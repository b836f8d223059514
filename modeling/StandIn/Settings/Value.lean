/-!
# Values of settings

What the sources of settings hold.  Every setting is read as a text in the end, so numbers and
truth values are kept as the text that they have.

* `Settings.Value` — nothing, a text, a list or a table.
* `Settings.Members` — the members of a table, in order.
* `Settings.Members.insert`, `Settings.Members.get?` — access by name.
-/

namespace StandIn.Settings

/-- A value.  Of a list is known in which file it stood, if it came from one as a whole. -/
inductive Value where
  | null
  | text (s : String)
  | list (items : List Value) (origin : Option String)
  | table (members : List (String × Value))
  deriving Inhabited

/-- The members of a table. -/
abbrev Members := List (String × Value)

namespace Members

/-- The value of a name. -/
def get? (ms : Members) (name : String) : Option Value :=
  ms.lookup name

/-- The members with a value for a name, in the place of the one that it had. -/
def insert (ms : Members) (name : String) (value : Value) : Members :=
  match ms with
  | [] => [(name, value)]
  | (n, v) :: rest =>
    if n = name then (n, value) :: rest else (n, v) :: insert rest name value

/-- The members that remain of a list in which names may recur: the last value of each. -/
def ofList (entries : List (String × Value)) : Members :=
  entries.foldl (fun ms (n, v) => ms.insert n v) []

end Members

end StandIn.Settings
