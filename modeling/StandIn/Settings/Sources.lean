import StandIn.Settings.File
import StandIn.Settings.Merge

/-!
# Sources of settings

Settings come from four places, of which a later one wins over the earlier ones: defaults, a file,
variables of the environment, and overrides, which are given on the command line.

* `Sources` — where settings come from.  Variables and overrides are given in some order, since
  two of them may name the same setting.
* `Sources.merge` — all settings in one table.
* `Settings.texts` — the settings among the members of a table, each of which has to be a text.
-/

namespace StandIn

/-- Where settings come from. -/
structure Sources where
  file : Option String := none
  environment : List (String × String) := []
  overrides : List (String × String) := []
  deriving Repr

namespace Settings

/-- The members that variables with a prefix stand for.  Names are taken in lower case, and empty
values count as absent. -/
def ofEnvironment (stem : String) (environment : List (String × String)) : Members :=
  let start := (lowercase (stem ++ "_")).toList
  Members.ofList <| environment.filterMap fun (name, value) =>
    let name := (lowercase name).toList
    if !value.isEmpty && start.isPrefixOf name then
      some (String.ofList (name.drop start.length), .text value)
    else none

/-- The overrides with their paths. -/
def readOverrides : List (String × String) → Except SettingsError (List (KeyPath × String))
  | [] => .ok []
  | (name, value) :: rest =>
    match KeyPath.parse name with
    | .error e => .error (.malformedPath e)
    | .ok path => (readOverrides rest).map ((path, value) :: ·)

/-- The text of a member that is a setting, if it has one. -/
def textOf? (name : String) : Value → Except SettingsError (Option String)
  | .null => .ok none
  | .text s => .ok (some s)
  | .list _ origin => .error (.wrongType "sequence" name origin)
  | .table _ => .error (.wrongType "map" name none)

/-- The settings of the given names among the members of a table.  All other members are passed
over, whatever they are. -/
def texts (names : List String) : Members → Except SettingsError (List (String × String))
  | [] => .ok []
  | (name, v) :: rest =>
    if names.contains name then
      (textOf? name v).bind fun found => (texts names rest).map fun later =>
        match found with
        | some s => (name, s) :: later
        | none => later
    else texts names rest

end Settings

namespace Sources

open Settings

/-- All settings of the sources in one table.  The variables are those with the given prefix. -/
def merge (s : Sources) (files : Files) (stem : String) (defaults : Members) :
    Except SettingsError Members := do
  let overrides ← readOverrides s.overrides
  let fromFile ← match s.file with
    | some path => load files path
    | none => pure []
  let layers := (Members.layer [] fromFile).layer (ofEnvironment stem s.environment)
  let merged := (Members.layer [] defaults).layer layers
  return overrides.foldl (fun ms (path, value) => ms.set (.text value) path) merged

end Sources

end StandIn
