import StandIn.Settings.KeyPath
import StandIn.Settings.Value

/-!
# Merging values

Settings are laid over each other: a value that is set later takes the place of an earlier one,
but tables are merged member by member.  Names are compared in lower case.

* `lowercase` — the lower case of names.
* `Members.put` — sets a member.
* `Members.set` — sets what a path stands for, making tables and lists on the way.
* `Members.layer` — sets all members of another table, whose names may be paths.
-/

namespace StandIn.Settings

/-- A name in lower case.  The Kelvin sign is the one character outside of ASCII whose lower case
is within; no other one could make a name equal to that of a setting. -/
def lowercase (s : String) : String :=
  String.ofList (s.toList.map fun c => if c = '\u212A' then 'k' else c.toLower)

/-- The members of a value that is a table, and else none. -/
def Value.members : Value → Members
  | .table ms => ms
  | _ => []

/-- The items of a value that is a list, and else none. -/
def Value.items : Value → List Value
  | .list vs _ => vs
  | _ => []

/-- The file from which a list came. -/
def Value.origin? : Value → Option String
  | .list _ origin => origin
  | _ => none

mutual

/-- Sets a member.  A table is merged into what is there; an empty one leaves it as it is. -/
def Members.put (ms : Members) (name : String) : Value → Members
  | .table incoming =>
    let target := (Members.get? ms (lowercase name)).getD (.table [])
    Members.insert ms (lowercase name) (putAll target incoming)
  | v => Members.insert ms (lowercase name) v

/-- Merges members into a value, which becomes a table if there are any. -/
def putAll (target : Value) : List (String × Value) → Value
  | [] => target
  | (name, v) :: rest => putAll (.table (Members.put target.members name v)) rest

end

/-- The place in a list of the given length that a number stands for.  Negative numbers count from
the end; one that reaches beyond the start stands for the first place. -/
def place (index : Int) (length : Nat) : Nat :=
  match index with
  | .ofNat n => n
  | .negSucc n => length - (n + 1)

/-- A list with the item at a place changed, and nothing at the places that had to be made. -/
def changeItem (change : Value → Value) (index : Int) (v : Value) : Value :=
  let items := v.items
  let i := place index items.length
  let padded := items ++ List.replicate (i + 1 - items.length) .null
  .list (padded.modify i change) v.origin?

/-- A table with a member changed. -/
def changeMember (change : Value → Value) (name : String) (ms : Members) : Members :=
  Members.insert ms (lowercase name) (change ((Members.get? ms (lowercase name)).getD .null))

/-- Changes what a path stands for.  What is in the way and cannot have parts is replaced. -/
def Members.change (ms : Members) (f : Value → Value) : KeyPath → Members
  | .name s => changeMember f s ms
  | .child parent s => Members.change ms (fun v => .table (changeMember f s v.members)) parent
  | .item parent i => Members.change ms (changeItem f i) parent

/-- Sets what a path stands for. -/
def Members.set (ms : Members) (v : Value) : KeyPath → Members
  | .name s => Members.put ms s v
  | .child parent s => Members.change ms (fun old => .table (Members.put old.members s v)) parent
  | .item parent i => Members.change ms (changeItem (fun _ => v) i) parent

/-- The path that a name stands for in a source: a name that is no path stands for itself. -/
def pathOf (name : String) : KeyPath :=
  match KeyPath.parse name with
  | .ok path => path
  | .error _ => .name name

/-- Sets all members of a source in turn. -/
def Members.layer (ms source : Members) : Members :=
  source.foldl (fun ms (name, v) => ms.set v (pathOf name)) ms

end StandIn.Settings
