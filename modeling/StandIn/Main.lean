import StandIn.Program

/-!
# The command line

The first argument tells which of the two programs is run, `ingress-stub` or `intercept-proxy`; all
others are its own.  Files and variables are read here, and everything else is `Program.run`.

This executable has no sockets of its own.  It runs the programs on a host that is cut off, where
nobody can reach them, so that they are over as soon as they have begun to serve.
-/

namespace StandIn

/-- What a file holds, or why it cannot be read. -/
def readContents (path : String) : IO (String × Except String Octets) := do
  try
    return (path, .ok (← IO.FS.readBinFile path).toList)
  catch
    | .permissionDenied .. => return (path, .error "Permission denied (os error 13)")
    | _ => return (path, .error Files.missing)

/-- The variables among entries such as `NAME=value`. -/
def pairsOf (entries : List Octets) : List (String × String) :=
  entries.filterMap fun entry => do
    let cs := (← Utf8.decode? entry).toList
    let name := cs.takeWhile (· ≠ '=')
    if name.isEmpty then none
    else some (String.ofList name, String.ofList (cs.drop (name.length + 1)))

/-- The environment of this process. -/
def readEnvironment : IO (List (String × String)) := do
  try
    return pairsOf (splitAt 0 (← IO.FS.readBinFile "/proc/self/environ").toList)
  catch _ =>
    return []

/-- Runs a program on what the files and variables of this host hold. -/
def execute (p : Program) (arguments : List String) : IO UInt32 := do
  let environment ← readEnvironment
  let sources := p.sources environment ((CommandLine.read p.command arguments).toOption.getD [])
  let settings ← (Program.settingsFiles sources).mapM readContents
  let bundle ← (p.bundleFiles (.ofResults settings) sources).mapM readContents
  let o := p.run (.isolated []) (.ofResults (settings ++ bundle)) environment arguments
  o.out.forM fun line => IO.println line
  o.err.forM fun line => IO.eprintln line
  return o.status.toUInt32

end StandIn

/-- Runs the program that the first argument names. -/
def main (arguments : List String) : IO UInt32 := do
  match arguments with
  | [] =>
    IO.eprintln "error: no program is named; there are 'ingress-stub' and 'intercept-proxy'"
    return 2
  | name :: rest =>
    match StandIn.Program.ofName? name with
    | some p => StandIn.execute p rest
    | none =>
      IO.eprintln s!"error: there is no program '{name}'"
      return 2
