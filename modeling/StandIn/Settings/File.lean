import StandIn.Failure
import StandIn.Files
import StandIn.Settings.Format.Ini
import StandIn.Settings.Format.Json5
import StandIn.Settings.Format.Ron
import StandIn.Settings.Format.Toml
import StandIn.Settings.Format.Yaml
import StandIn.Text.Utf8

/-!
# Files of settings

* `Settings.Format` — the formats, told by the end of a file's name.
* `Settings.locate` — the file that a path names.  The end of the name may be left out.
* `Settings.load` — the members that a file holds.
-/

namespace StandIn.Settings

/-- A format of files. -/
inductive FileFormat where
  | toml | json | yaml | ini | ron | json5
  deriving DecidableEq, Repr

/-- The formats with the ends of their files' names. -/
def extensions : List (String × FileFormat) :=
  [("toml", .toml), ("json", .json), ("yaml", .yaml), ("yml", .yaml), ("ini", .ini), ("ron", .ron),
    ("json5", .json5)]

/-- The part of a path behind its last slash. -/
def fileName (path : String) : List Char :=
  (path.toList.reverse.takeWhile (· ≠ '/')).reverse

/-- What stands behind the last point of a file's name.  A point in front counts as part of the
name. -/
def extension (path : String) : String :=
  let name := fileName path
  let behind := (name.reverse.takeWhile (· ≠ '.')).reverse
  if behind.length + 1 < name.length then String.ofList behind else ""

/-- The path without slashes at its end. -/
def trimSlashes (path : String) : String :=
  String.ofList (path.toList.reverse.dropWhile (· = '/')).reverse

/-- The path with each of the known ends, and the formats that they tell. -/
def candidates (path : String) : List (String × FileFormat) :=
  extensions.map fun (e, format) => (trimSlashes path ++ "." ++ e, format)

/-- The file that a path names, and its format: the path itself, or else the path with one of the
known ends. -/
def locate (files : Files) (path : String) : Except SettingsError (String × FileFormat) :=
  if (files path).isOk then
    match extensions.lookup (extension path) with
    | some format => .ok (path, format)
    | none =>
      .error (.unreadableFile s!"configuration file \"{path}\" is not of a registered file format")
  else
    match (candidates path).find? fun (candidate, _) => (files candidate).isOk with
    | some found => .ok found
    | none => .error (.unreadableFile s!"configuration file \"{path}\" not found")

/-- What a text in the given format holds. -/
def FileFormat.read? (format : FileFormat) (origin : Option String) (text : String) :
    Option Value :=
  match format with
  | toml => Format.Toml.read? origin text
  | json => Format.Json.read? origin text
  | yaml => Format.Yaml.read? origin text
  | ini => Format.Ini.read? text
  | ron => Format.Ron.read? origin text
  | json5 => Format.Json5.read? origin text

/-- The members that a file holds.  It has to hold a table. -/
def load (files : Files) (path : String) : Except SettingsError Members := do
  let (path, format) ← locate files path
  match files path with
  | .error cause => throw (.unreadableFile cause)
  | .ok bs =>
    match Utf8.decode? bs with
    | none => throw (.unreadableFile "stream did not contain valid UTF-8")
    | some text =>
      match format.read? (some path) text with
      | some (.table ms) => return ms
      | _ => throw .malformedFile

end StandIn.Settings
