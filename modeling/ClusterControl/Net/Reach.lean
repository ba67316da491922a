import ClusterControl.Net.Url
import ClusterControl.Text.SystemCause
/-!
# Reach

What the machine that the program runs on says to an attempt to connect or to listen.
-/

namespace ClusterControl

/-- The network as one machine finds it. -/
structure Reach where
  -- why no connection to a host and a port comes about, if none does
  obstacle? : UrlHost → Nat → Option IoError
  -- listens at an address beside those that are taken, and gives the address as it is shown
  listen : List SocketAddress → SocketAddress → Except IoError String

namespace SocketAddress

/-- The address stands for all addresses of the machine. -/
def isEverywhere : SocketAddress → Bool
  | .v4 ip _ => ip = IPv4.ofNat 0
  | .v6 ip _ _ => ip.groups.all (· = 0)

/-- The address leads back to the machine. -/
def isLoopback : SocketAddress → Bool
  | .v4 ip _ => ip.a = 127
  | .v6 ip _ _ => ip.groups.dropLast.all (· = 0) && ip.groups.getLast? = some 1

/-- Nobody can listen at one of the addresses while somebody does at the other one. -/
def excludes (a b : SocketAddress) : Bool :=
  a.port ≠ 0 && a.port = b.port && (a = b || a.isEverywhere || b.isEverywhere)

end SocketAddress

namespace Reach

/-- The fault of a name that nobody can resolve for the time being. -/
def lookupFailed : IoError :=
  .custom "failed to lookup address information: Temporary failure in name resolution"

/-- The name that every machine knows. -/
def localName : String := "localhost"

/-- A machine without a route to anywhere, its own addresses included.  It still listens at those,
each port once. -/
def isolated : Reach where
  obstacle? host _ :=
    match host with
    | .domain name => some (if name = localName then .networkUnreachable else lookupFailed)
    | _ => some .networkUnreachable
  listen taken a :=
    if !a.isEverywhere && !a.isLoopback then .error (.system 99)
    else if taken.any a.excludes then .error (.system 98)
    else .ok a.text

end Reach
end ClusterControl
