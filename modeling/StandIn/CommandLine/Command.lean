/-!
# Commands and their parameters

* `Kind` — what a parameter's value may be.
* `Parameter` — a parameter by name, with a line of help.
* `Switch` — what every command can be asked for: its help and its version.
* `Command` — a program: its name, what it is for, and its parameters.
-/

namespace StandIn.CommandLine

/-- One of the values that a parameter may have, with a line of help. -/
structure Choice where
  value : String
  help : String
  deriving DecidableEq, Repr

/-- What a parameter's value may be. -/
inductive Kind where
  /-- The name of a file, which is never empty. -/
  | path
  | text
  /-- One of a few values, of which one is meant if the parameter is not given. -/
  | choice (default : String) (choices : List Choice)
  deriving DecidableEq, Repr

/-- A parameter, which may be given once and takes a value. -/
structure Parameter where
  name : String
  kind : Kind
  help : String
  deriving DecidableEq, Repr

namespace Parameter

/-- The parameter as it is given. -/
def flag (p : Parameter) : String := "--" ++ p.name

/-- The name of a parameter's value. -/
def valueName (p : Parameter) : String :=
  String.ofList (p.name.toList.map fun c => if c = '-' then '_' else c.toUpper)

/-- The parameter with its value. -/
def signature (p : Parameter) : String := s!"{p.flag} <{p.valueName}>"

/-- The values that the parameter may have, if they are few. -/
def choices (p : Parameter) : List Choice :=
  match p.kind with
  | .choice _ cs => cs
  | .path | .text => []

end Parameter

/-- What every command can be asked for. -/
inductive Switch where
  | help | version
  deriving DecidableEq, Repr

namespace Switch

/-- All switches. -/
def all : List Switch := [help, version]

/-- The long name. -/
def name : Switch → String
  | help => "help"
  | version => "version"

/-- The short name. -/
def letter : Switch → Char
  | help => 'h'
  | version => 'V'

/-- The switch as it is given. -/
def flag (s : Switch) : String := "--" ++ s.name

end Switch

/-- A program that takes parameters. -/
structure Command where
  name : String
  version : String
  /-- What the program is for, in one line. -/
  summary : String
  /-- What the program is for, in paragraphs. -/
  description : List String
  parameters : List Parameter
  deriving DecidableEq, Repr

namespace Command

/-- The parameter of a name. -/
def parameter? (c : Command) (name : String) : Option Parameter :=
  c.parameters.find? (·.name = name)

/-- All long names, in the order in which they are listed. -/
def names (c : Command) : List String :=
  c.parameters.map (·.name) ++ Switch.all.map (·.name)

/-- How a name is given: a parameter with its value, a switch by itself. -/
def signature (c : Command) (name : String) : String :=
  match c.parameter? name with
  | some p => p.signature
  | none => "--" ++ name

end Command

end StandIn.CommandLine
