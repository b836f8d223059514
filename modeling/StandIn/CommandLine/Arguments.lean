import StandIn.CommandLine.Command
import StandIn.CommandLine.Similarity

/-!
# Arguments

* `Misuse` — what can be wrong with the arguments of a command.
* `Stop` — why a command does nothing with its arguments.
* `State` — what has been read.  A value that stands in an argument of its own is looked at only
  when the next one is read, so that what is wrong there is told first.
* `read` — the parameters that were given, with their values.
-/

namespace StandIn.CommandLine

/-- What can be wrong with arguments. -/
inductive Misuse where
  | missingValue (p : Parameter)
  | invalidValue (p : Parameter) (value : String)
  | repeated (p : Parameter)
  /-- An argument that nothing is known about. -/
  | unexpected (argument : String)
  /-- A name that nothing is known about, the name that was probably meant, and what had been
  given in front. -/
  | unknownName (name : String) (meant : Option String) (given : List String)
  /-- A value for a switch, and what had been given in front. -/
  | surplusValue (s : Switch) (value : String) (given : List String)
  deriving DecidableEq, Repr

/-- Why a command does nothing with its arguments. -/
inductive Stop where
  /-- Help was asked for, in full or in short. -/
  | help (inFull : Bool)
  | version
  | misuse (m : Misuse)
  deriving DecidableEq, Repr

/-- What has been read. -/
structure State where
  /-- The parameters with their values, in the order in which they were given. -/
  given : List (Parameter × String) := []
  /-- A parameter whose value has not been looked at, or not even been read. -/
  pending : Option (Parameter × Option String) := none
  deriving DecidableEq, Repr

namespace State

/-- Whether the parameter has been given. -/
def has (s : State) (p : Parameter) : Bool :=
  s.given.any fun (q, _) => q.name = p.name

/-- What is wrong with a value of a parameter. -/
def fault? (p : Parameter) (value : String) : Option Misuse :=
  match p.kind with
  | .text => none
  | .path => if value.isEmpty then some (.missingValue p) else none
  | .choice _ choices =>
    if choices.any (·.value = value) then none
    else if value.isEmpty then some (.missingValue p)
    else some (.invalidValue p value)

/-- Takes in a parameter with its value. -/
def accept (s : State) (p : Parameter) (value : String) : Except Misuse State :=
  if s.has p then .error (.repeated p)
  else
    match fault? p value with
    | some m => .error m
    | none => .ok { given := s.given ++ [(p, value)] }

/-- Looks at the value that was put off. -/
def settle (s : State) : Except Misuse State :=
  match s.pending with
  | none => .ok s
  | some (p, none) => .error (.missingValue p)
  | some (p, some value) => s.accept p value

/-- The names that have been given, whatever is wrong with the value that was put off.  A
parameter that is given twice is then taken for not given. -/
def givenNames (s : State) : List String :=
  let names := s.given.map (·.1.name)
  match s.pending with
  | some (p, some _) => if s.has p then names.filter (· ≠ p.name) else names ++ [p.name]
  | some (_, none) | none => names

end State

/-- The name and the value in an argument such as `--name=value`. -/
def splitLong (cs : List Char) : String × Option String :=
  let name := cs.takeWhile (· ≠ '=')
  (String.ofList name,
    match cs.drop name.length with
    | _ :: value => some (String.ofList value)
    | [] => none)

/-- What a switch asks for. -/
def Switch.stop (s : Switch) (inFull : Bool) : Stop :=
  match s with
  | .help => .help inFull
  | .version => .version

/-- The outcome of a step that may find misuse. -/
def orStop {α : Type} : Except Misuse α → Except Stop α
  | .ok a => .ok a
  | .error m => .error (.misuse m)

/-- Reads an argument that begins with two dashes. -/
def readLong (c : Command) (s : State) (cs : List Char) : Except Stop State :=
  let (name, value) := splitLong cs
  match Switch.all.find? (·.name = name), c.parameter? name, value with
  | some switch, _, some value => .error (.misuse (.surplusValue switch value s.givenNames))
  | some switch, _, none => (orStop s.settle).bind fun _ => .error (switch.stop true)
  | none, some p, some value => (orStop s.settle).bind fun s => orStop (s.accept p value)
  | none, some p, none =>
    (orStop s.settle).map fun s => { given := s.given, pending := some (p, none) }
  | none, none, _ => .error (.misuse (.unknownName name (closest? name c.names) s.givenNames))

/-- Reads an argument that begins with one dash, of which the first letter decides. -/
def readShort (s : State) (letter : Char) : Except Stop State :=
  match Switch.all.find? (·.letter = letter) with
  | some switch => (orStop s.settle).bind fun _ => .error (switch.stop false)
  | none => .error (.misuse (.unexpected (String.ofList ['-', letter])))

/-- Reads any other argument, which has to be the value of the parameter in front. -/
def readValue (s : State) (argument : String) : Except Stop State :=
  match s.pending with
  | some (p, none) => .ok { s with pending := some (p, some argument) }
  | some (_, some _) | none => .error (.misuse (.unexpected argument))

/-- Reads arguments.  Behind two dashes nothing may follow. -/
def readFrom (c : Command) (s : State) : List String → Except Stop State
  | [] => orStop s.settle
  | argument :: rest =>
    match argument.toList with
    | ['-', '-'] =>
      match rest with
      | [] => orStop s.settle
      | surplus :: _ => .error (.misuse (.unexpected surplus))
    | '-' :: '-' :: cs => (readLong c s cs).bind fun s => readFrom c s rest
    | '-' :: letter :: _ => (readShort s letter).bind fun s => readFrom c s rest
    | _ => (readValue s argument).bind fun s => readFrom c s rest

/-- The values of the parameters that are given, by name. -/
def read (c : Command) (arguments : List String) : Except Stop (List (String × String)) :=
  (readFrom c {} arguments).map fun s => s.given.map fun (p, value) => (p.name, value)

/-- The value of a choice among what was given, or the value that is meant otherwise. -/
def chosen (p : Parameter) (given : List (String × String)) : String :=
  match given.lookup p.name, p.kind with
  | some value, _ => value
  | none, .choice default _ => default
  | none, _ => ""

end StandIn.CommandLine
