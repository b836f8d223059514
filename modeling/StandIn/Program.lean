import StandIn.CommandLine.Help
import StandIn.Log.Filter
import StandIn.Startup

/-!
# The programs

* `Program` — the two stand-ins as programs: `ingress-stub` and `intercept-proxy`.
* `Program.command` — their command lines.
* `Program.course` — what they do with settings.
* `Output`, `Program.run` — what a run writes, and the status with which it ends.
-/

namespace StandIn

open CommandLine (Command Parameter)

/-- The two stand-ins. -/
inductive Program where
  | ingress | relay
  deriving DecidableEq, Repr

namespace Program

/-- The programs' version. -/
def version : String := "0.1.0"

/-- What both programs are for. -/
def summary : String :=
  "Test doubles for scheduler client integrations: a mutual-TLS ingress stub and an " ++
    "intercepting HTTP proxy"

/-! ## Command lines -/

/-- The parameter for a file of settings. -/
def configParameter : Parameter :=
  ⟨"config", .path, "Config file layered under the environment"⟩

/-- The parameter for the form of the log. -/
def logFormatParameter : Parameter :=
  ⟨"log-format",
    .choice "text" [⟨"text", "Human-readable lines"⟩, ⟨"json", "One JSON object per event"⟩],
    "Log output format"⟩

/-- The parameters that override settings. -/
def overrides : Program → List Parameter
  | ingress => [
    ⟨"listen-addr", .text,
      "IPv4 listen address [env: METRON_LISTEN_ADDR, default: 0.0.0.0:3456]"⟩,
    ⟨"cert", .text, "Server certificate [env: METRON_CERT]"⟩,
    ⟨"key", .text, "Server private key [env: METRON_KEY]"⟩,
    ⟨"ca", .text, "CA bundle for client certificates [env: METRON_CA]"⟩]
  | relay => [
    ⟨"listen-addr", .text, "Listen address [env: DIEGO_LISTEN_ADDR, default: 0.0.0.0:1234]"⟩,
    ⟨"url", .text, "Upstream scheduler API base URL [env: DIEGO_URL]"⟩,
    ⟨"ca", .text, "CA bundle trusted for the upstream [env: DIEGO_CA]"⟩,
    ⟨"client-cert", .text, "Client certificate presented upstream [env: DIEGO_CLIENT_CERT]"⟩,
    ⟨"client-key", .text, "Client private key [env: DIEGO_CLIENT_KEY]"⟩]

/-- The variables of which a program takes settings. -/
def variableNames : Program → String
  | ingress => "METRON_*"
  | relay => "DIEGO_*"

/-- What a program is, in one sentence. -/
def purpose : Program → String
  | ingress => "Mutual-TLS gRPC ingress that accepts telemetry and keeps nothing."
  | relay => "HTTP proxy in front of the scheduler API."

/-- The name of a program. -/
def name : Program → String
  | ingress => "ingress-stub"
  | relay => "intercept-proxy"

/-- The program of a name. -/
def ofName? (name : String) : Option Program :=
  [ingress, relay].find? (·.name = name)

/-- The command line of a program. -/
def command (p : Program) : Command where
  name := p.name
  version := version
  summary := summary
  description := [p.purpose,
    s!"Settings come from {p.variableNames} environment variables, an optional config file, and " ++
      "the flags below (highest precedence)."]
  parameters := configParameter :: p.overrides ++ [logFormatParameter]

/-- The setting that a parameter overrides. -/
def settingOf (p : Parameter) : String :=
  String.ofList (p.name.toList.map fun c => if c = '-' then '_' else c)

/-- Where a program's settings come from. -/
def sources (p : Program) (environment given : List (String × String)) : Sources where
  file := given.lookup configParameter.name
  environment := environment
  overrides := p.overrides.filterMap fun q => (given.lookup q.name).map ((settingOf q, ·))

/-- The files in which settings are looked for. -/
def settingsFiles (s : Sources) : List String :=
  match s.file with
  | some path => path :: (Settings.candidates path).map (·.1)
  | none => []

/-- The files of certificates and keys that the settings name. -/
def bundleFiles (p : Program) (files : Files) (s : Sources) : List String :=
  let paths : Except Failure Tls.Paths := match p with
    | ingress => (IngressSettings.load s files).map (·.tls)
    | relay => (RelaySettings.load s files).map (·.tls)
  match paths with
  | .ok paths => [paths.cert, paths.key, paths.ca]
  | .error _ => []

/-! ## Runs -/

/-- The part of the program that a program's own events come from. -/
def source : Program → String
  | ingress => "ingress_stub"
  | relay => "intercept_proxy"

/-- The span in which a program serves. -/
def span (p : Program) : Log.Span where
  name := match p with
    | ingress => "ingress"
    | relay => "proxy"
  source := p.source

/-- What a program calls itself. -/
def title : Program → String
  | ingress => "ingress stub"
  | relay => "intercepting proxy"

/-- An event of a program itself. -/
def ownEvent (p : Program) (level : Log.Level) (message : String) : Log.Event where
  level := level
  source := p.source
  message := message

/-- What a program does with settings, until it is interrupted. -/
def serve (p : Program) (host : Net.Host) (files : Files) (s : Sources) : Course Unit :=
  match p with
  | ingress => ingressCourse host files s p.span
  | relay => relayCourse host files s p.span

/-- Everything that a program does with settings.  It tells of its start and of its end, whatever
that is. -/
def course (p : Program) (host : Net.Host) (files : Files) (s : Sources) : Course Unit :=
  let served := p.serve host files s
  let starting := p.ownEvent .info s!"Starting {p.title} v{version}"
  let ending := match served.result with
    | .ok () => p.ownEvent .info s!"{p.title.capitalize} stopped gracefully"
    | .error f => p.ownEvent .error s!"{p.title.capitalize} failed: {f.chain}"
  ⟨.tell ⟨none, starting⟩ :: served.acts ++ [.tell ⟨none, ending⟩], served.result⟩

/-- What a run writes, and the status with which it ends. -/
structure Output where
  status : Nat
  out : List String := []
  err : List String := []
  deriving DecidableEq, Repr

/-- The variable that tells which events are logged. -/
def filterVariable : String := "RUST_LOG"

/-- The filter if none is given that can be read. -/
def defaultFilter : Log.Filter := ⟨[{ verbosity := Log.Level.info.verbosity }]⟩

/-- The filter of a run. -/
def filter (environment : List (String × String)) : Log.Filter :=
  ((environment.lookup filterVariable).bind Log.Filter.parse?).getD defaultFilter

/-- The records that are told in a course. -/
def records (acts : List Act) : List Log.Record :=
  acts.filterMap fun
    | .tell r => some r
    | .listen _ => none

/-- Lines under a heading.  Only the first one carries the label. -/
def labelled (label margin : String) (text : String) : List String :=
  match text.splitOn "\n" with
  | [] => []
  | line :: rest => (label ++ line) :: rest.map (margin ++ ·)

/-- The causes of a failure, numbered if there are several. -/
def causeLines (causes : List String) : List String :=
  match causes with
  | [] => []
  | [cause] => ["", "Caused by:"] ++ labelled "    " "    " cause
  | _ => ["", "Caused by:"] ++ (causes.zipIdx.flatMap fun (cause, n) =>
      labelled s!"    {n}: " "       " cause)

/-- What is written of a failure that ends a program. -/
def failureLines (f : Failure) : List String :=
  labelled "Error: " "" f.message ++ causeLines f.causes

/-- What a run does that is not stopped by its arguments. -/
def execution (p : Program) (host : Net.Host) (files : Files)
    (environment given : List (String × String)) : Course Unit :=
  p.course host files (p.sources environment given)

/-- A run of a program. -/
def run (p : Program) (host : Net.Host) (files : Files) (environment : List (String × String))
    (arguments : List String) : Output :=
  match CommandLine.read p.command arguments with
  | .error (.help true) => { status := 0, out := CommandLine.fullHelp p.command }
  | .error (.help false) => { status := 0, out := CommandLine.shortHelp p.command }
  | .error .version => { status := 0, out := [CommandLine.versionLine p.command] }
  | .error (.misuse m) => { status := 2, err := m.lines p.command }
  | .ok given =>
    let c := p.execution host files environment given
    let form : Log.Form :=
      if CommandLine.chosen logFormatParameter given = "json" then .json else .text
    let told := (records c.acts).filterMap (filter environment).pass
    let out := told.flatMap fun r => (r.line form).splitOn "\n"
    match c.result with
    | .ok () => { status := 0, out := out }
    | .error f => { status := 1, out := out, err := failureLines f }

end Program

end StandIn
