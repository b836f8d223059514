import StandIn.Settings.Value

/-!
# Putting a TOML document together

A TOML file is a sequence of statements that each add something to one table.  What may be added
depends on how the tables in the way came about.

* `Format.Toml.Statement` — an entry, or the heading of a table or of one more table of a list.
* `Format.Toml.Node` — what stands under a name while the document is put together.
* `Format.Toml.enter` — adds an entry.
* `Format.Toml.build?` — the table that statements make, unless one of them contradicts another.
-/

namespace StandIn.Settings.Format.Toml

/-- A statement. -/
inductive Statement where
  | entry (path : List String) (value : Value)
  | heading (path : List String)
  | listHeading (path : List String)

/-- How a table came about. -/
inductive Origin where
  /-- By a heading of its own. -/
  | heading
  /-- By the heading of a table inside of it. -/
  | implied
  /-- By an entry with points in its name. -/
  | dotted
  deriving DecidableEq

/-- What stands under a name.  A value, also one that is a list or a table, is complete. -/
inductive Node where
  | value (v : Value)
  | table (origin : Origin) (members : List (String × Node))
  | tables (items : List (List (String × Node)))

/-- The members of a table that is being put together. -/
abbrev Nodes := List (String × Node)

/-- Replaces what stands under a name, or adds it. -/
def Nodes.set (name : String) (node : Node) : Nodes → Nodes
  | [] => [(name, node)]
  | (n, v) :: rest => if n = name then (n, node) :: rest else (n, v) :: Nodes.set name node rest

/-- The list with its last item changed. -/
def mapLast? {α : Type} (f : α → Option α) : List α → Option (List α)
  | [] => none
  | [x] => (f x).map fun y => [y]
  | x :: rest => (mapLast? f rest).map (x :: ·)

/-- Adds an entry below a table that came about as `origin` tells.  An entry with points in its name
adds only to tables that such entries made; `plain` tells whether this one has none. -/
def enter (plain : Bool) (value : Value) : (path : List String) → Origin → Nodes → Option Nodes
  | [], _, _ => none
  | [name], origin, ms =>
    if plain = decide (origin = .dotted) then none
    else if (ms.lookup name).isSome then none
    else some (ms ++ [(name, .value value)])
  | name :: path, _, ms =>
    match ms.lookup name with
    | none => (enter plain value path .dotted []).map fun inner =>
        ms ++ [(name, .table .dotted inner)]
    | some (.table .heading _) => none
    | some (.table origin inner) => (enter plain value path origin inner).map fun inner =>
        Nodes.set name (.table origin inner) ms
    | some (.tables items) => (mapLast? (enter plain value path .heading) items).map fun items =>
        Nodes.set name (.tables items) ms
    | some (.value _) => none

/-- Changes what the last name of a path stands for.  Tables in the way are made where they are
missing, and of a list of tables the last one counts. -/
def atPath (change : Option Node → Option Node) : (path : List String) → Nodes → Option Nodes
  | [], _ => none
  | [name], ms => (change (ms.lookup name)).map fun node => Nodes.set name node ms
  | name :: path, ms =>
    match ms.lookup name with
    | none => (atPath change path []).map fun inner => Nodes.set name (.table .implied inner) ms
    | some (.table origin inner) => (atPath change path inner).map fun inner =>
        Nodes.set name (.table origin inner) ms
    | some (.tables items) => (mapLast? (atPath change path) items).map fun items =>
        Nodes.set name (.tables items) ms
    | some (.value _) => none

/-- A table is opened by one heading only, unless it was implied so far. -/
def openTable : Option Node → Option Node
  | none => some (.table .heading [])
  | some (.table .implied ms) => some (.table .heading ms)
  | some _ => none

/-- One more table of a list. -/
def appendTable : Option Node → Option Node
  | none => some (.tables [[]])
  | some (.tables items) => some (.tables (items ++ [[]]))
  | some _ => none

/-- Changes the table of the heading in force. -/
def inTable (change : Nodes → Option Nodes) : Option Node → Option Node
  | some (.table origin ms) => (change ms).map (.table origin)
  | some (.tables items) => (mapLast? change items).map .tables
  | _ => none

/-- Adds an entry to the table of the heading in force; without a heading that is the whole
document. -/
def addEntry (current path : List String) (value : Value) (ms : Nodes) : Option Nodes :=
  let add := enter (path.length = 1) value path .heading
  if current.isEmpty then add ms else atPath (inTable add) current ms

/-- Carries out a statement.  The path is that of the heading in force. -/
def Statement.apply? : List String × Nodes → Statement → Option (List String × Nodes)
  | (current, ms), entry path value => (addEntry current path value ms).map (current, ·)
  | (_, ms), .heading path => (atPath openTable path ms).map (path, ·)
  | (_, ms), .listHeading path => (atPath appendTable path ms).map (path, ·)

mutual

/-- The value that a node stands for. -/
def Node.toValue (origin : Option String) : Node → Value
  | .value v => v
  | .table _ ms => .table (membersToValues origin ms)
  | .tables items => .list (tablesToValues origin items) origin

/-- The members of a table as values. -/
def membersToValues (origin : Option String) : List (String × Node) → List (String × Value)
  | [] => []
  | (name, node) :: rest => (name, node.toValue origin) :: membersToValues origin rest

/-- The tables of a list as values. -/
def tablesToValues (origin : Option String) : List (List (String × Node)) → List Value
  | [] => []
  | ms :: rest => .table (membersToValues origin ms) :: tablesToValues origin rest

end

/-- The table that statements make. -/
def build? (origin : Option String) (statements : List Statement) : Option Value :=
  (statements.foldlM Statement.apply? ([], [])).map fun (_, ms) =>
    .table (membersToValues origin ms)

end StandIn.Settings.Format.Toml
