import StandIn.Failure
import StandIn.Http.Uri.Parser

/-!
# The base of the scheduler

* `Settings.readScheduler` — reads the identifier of the scheduler, which has to be an absolute one
  of the web.
-/

namespace StandIn.Settings

/-- The variable that names the scheduler. -/
def schedulerVariable : String := "DIEGO_URL"

/-- The scheduler that a text names. -/
def readScheduler (value : String) : Except Failure Http.Uri :=
  let invalid (reason : String) : Except Failure Http.Uri :=
    .error (.invalidSetting schedulerVariable reason)
  match Http.Uri.parse value with
  | .error e => invalid s!"{Quoted.quote value}: {e.message}"
  | .ok u =>
    match u.scheme with
    | none => invalid s!"{Quoted.quote value} has no scheme"
    | some scheme =>
      if scheme ≠ "http" ∧ scheme ≠ "https" then
        invalid s!"unsupported scheme {Quoted.quote scheme}"
      else if u.authority.isNone then invalid s!"{Quoted.quote value} has no host"
      else .ok u

end StandIn.Settings
