import StandIn.Failure

/-!
# Hosts

* `Host` — what a host lets a program do with sockets.
* `Host.bind` — opens a socket.
* `Host.isolated` — a host that is cut off: sockets can be opened, but nobody is ever heard of.
-/

namespace StandIn.Net

/-- What a host lets a program do with sockets. -/
structure Host where
  /-- The address at which a socket listens that was asked for, or why there is none. -/
  listen : SocketAddress → Except String SocketAddress

/-- The port of a socket. -/
def SocketAddress.port : SocketAddress → UInt16
  | v4 _ port => port
  | v6 _ port _ => port

/-- The same host's address with another port. -/
def SocketAddress.withPort (port : UInt16) : SocketAddress → SocketAddress
  | v4 ip _ => .v4 ip port
  | v6 ip _ scope => .v6 ip port scope

namespace Host

/-- Opens a socket. -/
def bind (host : Host) (address : SocketAddress) : Except Failure SocketAddress :=
  match host.listen address with
  | .ok a => .ok a
  | .error cause => .error (.bind address cause)

/-- Ports below this one are not for everybody. -/
def firstOpenPort : UInt16 := 1024

/-- A socket that asks for port 0 gets this one. -/
def freePort : UInt16 := 40000

/-- Why a socket cannot be had on a port that is not for everybody. -/
def notPermitted : String := "Permission denied (os error 13)"

/-- Why a socket cannot be had on an address that another one has. -/
def inUse : String := "Address already in use (os error 98)"

/-- A host that is cut off.  Of its addresses those listed are in use. -/
def isolated (occupied : List SocketAddress := []) : Host where
  listen a :=
    if a.port = 0 then .ok (a.withPort freePort)
    else if a.port < firstOpenPort then .error notPermitted
    else if occupied.contains a then .error inUse
    else .ok a

end Host

end StandIn.Net
