import StandIn.Ingress.Server
import StandIn.Log.Line
import StandIn.Relay.Exchange

/-!
# How the stand-ins start

A stand-in gets everything in order before it opens its socket: settings, certificates, and what is
made of them.  The first thing that is wrong ends it.

* `Act`, `Course` — what a stand-in does, in order, and how it ends.
* `ingressCourse`, `relayCourse` — the courses of the two stand-ins, which serve until they are
  interrupted.
-/

namespace StandIn

/-- Something that a stand-in does. -/
inductive Act where
  | tell (r : Log.Record)
  /-- It asks for a socket on an address. -/
  | listen (a : Net.SocketAddress)
  deriving DecidableEq, Repr

/-- What a stand-in does, and what comes of it. -/
structure Course (α : Type) where
  acts : List Act
  result : Except Failure α
  deriving Repr

namespace Course

variable {α β : Type}

/-- Nothing is done. -/
protected def pure (a : α) : Course α := ⟨[], .ok a⟩

/-- One course after the other, unless the first one fails. -/
protected def bind (c : Course α) (next : α → Course β) : Course β :=
  match c.result with
  | .ok a => ⟨c.acts ++ (next a).acts, (next a).result⟩
  | .error f => ⟨c.acts, .error f⟩

instance : Monad Course where
  pure := Course.pure
  bind := Course.bind

/-- Something that nobody sees. -/
def ofExcept (r : Except Failure α) : Course α := ⟨[], r⟩

/-- Something is told. -/
def tell (span : Option Log.Span) (e : Log.Event) : Course Unit := ⟨[.tell ⟨span, e⟩], .ok ()⟩

/-- A socket is asked for. -/
def listen (host : Net.Host) (address : Net.SocketAddress) : Course Net.SocketAddress :=
  ⟨[.listen address], host.bind address⟩

/-- A bundle is loaded. -/
def loadBundle (files : Files) (paths : Tls.Paths) : Course Tls.Bundle := do
  let b ← ofExcept (Tls.Bundle.load files paths)
  tell none (b.loadedEvent paths)
  return b

end Course

/-- The event of an interruption. -/
def interruptedEvent (source : String) : Log.Event where
  level := .info
  source := source
  message := "Received shutdown signal, cleaning up..."

/-- The ingress from its start to its interruption. -/
def ingressCourse (host : Net.Host) (files : Files) (sources : Sources) (span : Log.Span) :
    Course Unit := do
  let settings ← Course.ofExcept (IngressSettings.load sources files)
  let b ← Course.loadBundle files settings.tls
  let tls ← Course.ofExcept (Tls.serverTls b.certPem b.keyPem b.caPem)
  let address ← Course.listen host settings.listen
  Course.tell span (Ingress.listeningEvent ⟨address, some tls⟩)
  Course.tell span (interruptedEvent span.source)
  Course.tell span Ingress.stoppedEvent

/-- The relay from its start to its interruption. -/
def relayCourse (host : Net.Host) (files : Files) (sources : Sources) (span : Log.Span) :
    Course Unit := do
  let settings ← Course.ofExcept (RelaySettings.load sources files)
  let b ← Course.loadBundle files settings.tls
  let _ ← Course.ofExcept (Tls.clientTls b)
  let address ← Course.listen host settings.listen
  let target : Relay.Target := ⟨Relay.Target.defaultName, settings.scheduler⟩
  Course.tell span (Relay.listeningEvent address target)
  Course.tell span (interruptedEvent span.source)
  Course.tell span Relay.stoppedEvent

end StandIn
