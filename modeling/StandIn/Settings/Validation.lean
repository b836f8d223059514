import StandIn.Settings.Sources
import StandIn.Settings.Scheduler
import StandIn.Text.Blank
import StandIn.Tls.Bundle

/-!
# Settings of the stand-ins

* `Requirement`, `missing` — the settings that have to be there, and those of them that are not.
* `readListen` — the address to listen on.
* `IngressSettings`, `RelaySettings` — what the two stand-ins need to start.
* `IngressSettings.ofTexts`, `RelaySettings.ofTexts` — validation: everything that is missing is
  reported first, then what cannot be used.
* `IngressSettings.load`, `RelaySettings.load` — validation of what sources give.
-/

namespace StandIn

namespace Settings

/-- A setting that has to be there, and the variable by which it is reported. -/
structure Requirement where
  variableName : String
  key : String
  deriving DecidableEq, Repr

/-- The value of a setting.  White space alone does not count. -/
def given? (texts : List (String × String)) (key : String) : Option String :=
  (texts.lookup key).filter fun s => !Text.isBlankText s

/-- The variables of the settings that are not given, in the order in which they are required. -/
def missing (texts : List (String × String)) (required : List Requirement) : List String :=
  (required.filter fun r => (given? texts r.key).isNone).map (·.variableName)

/-- The setting of the address to listen on. -/
def listenKey : String := "listen_addr"

/-- The address to listen on. -/
def readListen (variableName value : String) : Except Failure Net.SocketAddress :=
  match Net.SocketAddress.parse? value with
  | some a => .ok a
  | none => .error (.invalidSetting variableName
      s!"{Quoted.quote value}: invalid socket address syntax")

/-- The failure for settings that could not be put together. -/
def orFailure {α : Type} : Except SettingsError α → Except Failure α
  | .ok a => .ok a
  | .error e => .error (.settings e)

end Settings

open Settings

/-! ## The ingress -/

/-- What the ingress needs to start. -/
structure IngressSettings where
  listen : Net.SocketAddress
  tls : Tls.Paths
  deriving DecidableEq, Repr

namespace IngressSettings

/-- The prefix of the variables. -/
def stem : String := "METRON"

/-- The address to listen on if no other one is given. -/
def defaultListen : String := "0.0.0.0:3456"

/-- The settings that have to be there. -/
def required : List Requirement :=
  [⟨"METRON_CERT", "cert"⟩, ⟨"METRON_KEY", "key"⟩, ⟨"METRON_CA", "ca"⟩]

/-- The settings by name. -/
def keys : List String := listenKey :: required.map (·.key)

/-- Validates settings.  The ingress listens on IPv4 only. -/
def ofTexts (texts : List (String × String)) : Except Failure IngressSettings :=
  match given? texts "cert", given? texts "key", given? texts "ca" with
  | some cert, some key, some ca => do
    let listen ← readListen "METRON_LISTEN_ADDR" ((texts.lookup listenKey).getD defaultListen)
    if listen.isIPv4 then return ⟨listen, ⟨cert, key, ca⟩⟩
    else throw (.invalidSetting "METRON_LISTEN_ADDR" s!"{listen.render} is not an IPv4 address")
  | _, _, _ => .error (.missingSettings (missing texts required))

/-- The settings that sources give. -/
def load (sources : Sources) (files : Files) : Except Failure IngressSettings := do
  let merged ← orFailure (sources.merge files stem [(listenKey, .text defaultListen)])
  let found ← orFailure (texts keys merged)
  ofTexts found

end IngressSettings

/-! ## The relay -/

/-- What the relay needs to start. -/
structure RelaySettings where
  listen : Net.SocketAddress
  scheduler : Http.Uri
  tls : Tls.Paths
  deriving DecidableEq, Repr

namespace RelaySettings

/-- The prefix of the variables. -/
def stem : String := "DIEGO"

/-- The address to listen on if no other one is given. -/
def defaultListen : String := "0.0.0.0:1234"

/-- The settings that have to be there. -/
def required : List Requirement :=
  [⟨schedulerVariable, "url"⟩, ⟨"DIEGO_CA", "ca"⟩, ⟨"DIEGO_CLIENT_CERT", "client_cert"⟩,
    ⟨"DIEGO_CLIENT_KEY", "client_key"⟩]

/-- The settings by name. -/
def keys : List String := listenKey :: required.map (·.key)

/-- Validates settings. -/
def ofTexts (texts : List (String × String)) : Except Failure RelaySettings :=
  match given? texts "url", given? texts "ca", given? texts "client_cert",
      given? texts "client_key" with
  | some url, some ca, some cert, some key => do
    let listen ← readListen "DIEGO_LISTEN_ADDR" ((texts.lookup listenKey).getD defaultListen)
    let scheduler ← readScheduler url
    return ⟨listen, scheduler, ⟨cert, key, ca⟩⟩
  | _, _, _, _ => .error (.missingSettings (missing texts required))

/-- The settings that sources give. -/
def load (sources : Sources) (files : Files) : Except Failure RelaySettings := do
  let merged ← orFailure (sources.merge files stem [(listenKey, .text defaultListen)])
  let found ← orFailure (texts keys merged)
  ofTexts found

end RelaySettings

end StandIn
