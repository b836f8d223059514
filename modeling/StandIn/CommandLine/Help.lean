import StandIn.CommandLine.Arguments

/-!
# What a command says of itself

* `usage` — how a command is used.
* `shortHelp`, `fullHelp` — its help: one line for a parameter, or one paragraph.
* `versionLine` — its version.
* `Misuse.lines` — what is said of wrong arguments.
-/

namespace StandIn.CommandLine

/-- How the command is used, with parameters that have to do with what went wrong. -/
def usage (c : Command) (names : List String) : String :=
  "Usage: " ++ c.name ++
    if names.isEmpty then " [OPTIONS]"
    else String.join (names.eraseDups.map fun n => " " ++ c.signature n)

/-- The text filled up with blanks. -/
def padTo (width : Nat) (s : String) : String :=
  s ++ String.ofList (List.replicate (width - s.length) ' ')

/-- Values with commas between them. -/
def listed (values : List String) : String := String.intercalate ", " values

/-! ## Help -/

/-- What is said of a switch. -/
def switchHelp (inFull : Bool) : Switch → String
  | .help =>
    if inFull then "Print help (see a summary with '-h')"
    else "Print help (see more with '--help')"
  | .version => "Print version"

/-- A switch as it is listed. -/
def switchSignature (s : Switch) : String := s!"  -{s.letter}, {s.flag}"

/-- A parameter as it is listed. -/
def parameterSignature (p : Parameter) : String := s!"      {p.signature}"

/-- What is said of a parameter in one line. -/
def parameterLine (p : Parameter) : String :=
  match p.kind with
  | .choice default choices =>
    s!"{p.help} [default: {default}] [possible values: {listed (choices.map (·.value))}]"
  | .path | .text => p.help

/-- The help with one line for each parameter. -/
def shortHelp (c : Command) : List String :=
  let entries := c.parameters.map (fun p => (parameterSignature p, parameterLine p)) ++
    Switch.all.map fun s => (switchSignature s, switchHelp false s)
  let width := (entries.map (·.1.length)).foldl max 0 + 2
  [c.summary, "", usage c [], "", "Options:"] ++
    entries.map fun (signature, help) => padTo width signature ++ help

/-- How far paragraphs are moved to the right. -/
def indent : String := "          "

/-- What is said of a parameter in a paragraph. -/
def parameterParagraph (p : Parameter) : List String :=
  [parameterSignature p, indent ++ p.help] ++
    match p.kind with
    | .choice default choices =>
      ["", indent ++ "Possible values:"] ++
        choices.map (fun ch => s!"{indent}- {ch.value}: {ch.help}") ++
        [indent, s!"{indent}[default: {default}]"]
    | .path | .text => []

/-- The help with a paragraph for each parameter. -/
def fullHelp (c : Command) : List String :=
  let paragraphs := c.parameters.map parameterParagraph ++
    Switch.all.map fun s => [switchSignature s, indent ++ switchHelp true s]
  [""].intercalate (c.description.map ([·])) ++ ["", usage c [], "", "Options:"] ++
    [""].intercalate paragraphs

/-- The version of a command. -/
def versionLine (c : Command) : String := s!"{c.name} {c.version}"

/-! ## Misuse -/

/-- What went wrong. -/
def Misuse.complaint : Misuse → String
  | missingValue p => s!"a value is required for '{p.signature}' but none was supplied"
  | invalidValue p value => s!"invalid value '{value}' for '{p.signature}'"
  | repeated p => s!"the argument '{p.signature}' cannot be used multiple times"
  | unexpected argument => s!"unexpected argument '{argument}' found"
  | unknownName name _ _ => s!"unexpected argument '--{name}' found"
  | surplusValue s value _ =>
    s!"unexpected value '{value}' for '{s.flag}' found; no more were expected"

/-- The values that would have been possible. -/
def Misuse.possible : Misuse → List String
  | missingValue p | invalidValue p _ =>
    if p.choices.isEmpty then []
    else [s!"  [possible values: {listed (p.choices.map (·.value))}]"]
  | repeated _ | unexpected _ | unknownName .. | surplusValue .. => []

/-- What was probably meant. -/
def Misuse.tip : Misuse → List String
  | unknownName _ (some meant) _ => ["", s!"  tip: a similar argument exists: '--{meant}'"]
  | invalidValue p value =>
    match closest? value (p.choices.map (·.value)) with
    | some meant => ["", s!"  tip: a similar value exists: '{meant}'"]
    | none => []
  | unknownName _ none _ | missingValue _ | repeated _ | unexpected _ | surplusValue .. => []

/-- How the command is used, where that helps. -/
def Misuse.usage (c : Command) : Misuse → List String
  | missingValue _ | invalidValue .. => []
  | repeated _ | unexpected _ => ["", CommandLine.usage c []]
  | unknownName _ meant given => ["", CommandLine.usage c (given ++ meant.toList)]
  | surplusValue s _ given => ["", CommandLine.usage c (given ++ [s.name])]

/-- What is said of wrong arguments. -/
def Misuse.lines (c : Command) (m : Misuse) : List String :=
  ["error: " ++ m.complaint] ++ m.possible ++ m.tip ++ m.usage c ++
    ["", "For more information, try '--help'."]

end StandIn.CommandLine
