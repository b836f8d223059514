import StandIn.Ingress.Call
import StandIn.Net.Host
import StandIn.Settings.Validation

/-!
# The ingress as a server

* `bind` — opens the socket of the ingress, which is tried only once its certificates are in order.
* `listeningEvent`, `stoppedEvent` — what is told of a server.
-/

namespace StandIn.Ingress

/-- A server that listens. -/
structure Server where
  address : Net.SocketAddress
  /-- The certificates, unless it speaks in the clear. -/
  tls : Option Tls.ServerTls
  deriving DecidableEq, Repr

/-- Opens the socket of the ingress.  The certificates are looked at first. -/
def bind (host : Net.Host) (listen : Net.SocketAddress) (b : Tls.Bundle) :
    Except Failure Server := do
  let tls ← Tls.serverTls b.certPem b.keyPem b.caPem
  let address ← host.bind listen
  return ⟨address, some tls⟩

/-- The event of an ingress that begins to listen. -/
def listeningEvent (s : Server) : Log.Event where
  level := .info
  source := serverSource
  fields := [("addr", .text s.address.render), ("tls", .bool s.tls.isSome)]
  message := "Ingress stub listening"

/-- The event of an ingress that stopped. -/
def stoppedEvent : Log.Event where
  level := .info
  source := serverSource
  message := "Ingress stub stopped"

end StandIn.Ingress
