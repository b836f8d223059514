import StandIn.Net.Address
import StandIn.Settings.KeyPath
import StandIn.Text.Quoted

/-!
# Failures

Why a stand-in cannot start, or cannot do what it is asked to.  Bodies that cannot be decoded are
no failures: they are observed like all others.

* `SettingsError` — why settings could not be put together from their sources.
* `Failure` — all failures.
* `Failure.message` — the wording.
* `Failure.causes` — the wording of the failures underneath.
* `Failure.chain` — all of it on one line.
-/

namespace StandIn

/-- Why settings could not be put together. -/
inductive SettingsError where
  /-- A file is not of the form that its name promises. -/
  | malformedFile
  /-- A value has the wrong form.  `origin` is the file that it came from. -/
  | wrongType (found key : String) (origin : Option String)
  /-- There is no such setting. -/
  | notFound (key : String)
  /-- The name of a setting is no path. -/
  | malformedPath (error : Settings.KeyPath.Error)
  /-- A file could not be found or read. -/
  | unreadableFile (reason : String)
  /-- Any other reason. -/
  | other (reason : String)
  deriving DecidableEq, Repr

/-- The wording of a reason. -/
def SettingsError.message : SettingsError → String
  | malformedFile => "malformed file"
  | wrongType found key origin =>
    s!"invalid type: {found}, expected a string for key \x60{key}\x60" ++
      (match origin with
      | some file => s!" in {file}"
      | none => "")
  | notFound key => s!"configuration property {Quoted.quote key} not found"
  | malformedPath e => e.message
  | unreadableFile reason => reason
  | other reason => reason

/-- Why a stand-in cannot do its work. -/
inductive Failure where
  /-- Settings that no source gives. -/
  | missingSettings (names : List String)
  /-- A setting that cannot be used. -/
  | invalidSetting (name reason : String)
  /-- Settings that could not be put together. -/
  | settings (error : SettingsError)
  /-- A file of certificates or keys that cannot be read. -/
  | unreadableCertificate (path cause : String)
  /-- A file that does not hold the certificates or the key that it should. -/
  | malformedCertificate (path reason : String)
  /-- Certificates or keys that cannot be used. -/
  | tls (reason : String)
  /-- An address that cannot be listened on. -/
  | bind (address : Net.SocketAddress) (cause : String)
  /-- The ingress could not be set up or run.  The causes are those of the reason. -/
  | transport (reason : String) (causes : List String)
  /-- A request that could not be relayed. -/
  | forward (target reason : String)
  /-- Any other failure of input or output. -/
  | io (cause : String)
  deriving DecidableEq, Repr

namespace Failure

/-- The wording of a failure. -/
def message : Failure → String
  | missingSettings names =>
    "missing required settings: " ++ String.intercalate ", " names ++ " must be set"
  | invalidSetting name reason => s!"invalid setting {name}: {reason}"
  | settings e => s!"configuration error: {e.message}"
  | unreadableCertificate path cause => s!"failed to read {Quoted.quote path}: {cause}"
  | malformedCertificate path reason => s!"invalid PEM in {Quoted.quote path}: {reason}"
  | tls reason => s!"TLS error: {reason}"
  | bind address cause => s!"failed to listen on {address.render}: {cause}"
  | transport reason _ => s!"gRPC transport error: {reason}"
  | forward target reason => s!"forwarding to {target} failed: {reason}"
  | io cause => s!"I/O error: {cause}"

/-- The wording of the failures underneath, from the nearest to the first. -/
def causes : Failure → List String
  | settings e => [e.message]
  | unreadableCertificate _ cause => [cause]
  | bind _ cause => [cause]
  | transport reason causes => reason :: causes
  | io cause => [cause]
  | _ => []

/-- The wording of a failure with all its causes, on one line. -/
def chain (f : Failure) : String :=
  String.intercalate ": " (f.message :: f.causes)

end Failure

end StandIn
