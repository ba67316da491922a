import ClusterControl.Failure
import ClusterControl.Text.Blank
/-!
# Dialling

How a caller gets from the endpoint that it was given to the host and the port that it connects to.
An endpoint is a URL, or a host with a port, which stands for a URL of the plain scheme.
-/

namespace ClusterControl

/-- A text occurs within another one. -/
def occursIn (part : List Char) : List Char → Bool
  | [] => part.isEmpty
  | c :: cs => part.isPrefixOf (c :: cs) || occursIn part cs

/-- What separates a scheme from a host. -/
def schemeMark : String := "://"

namespace Url

/-- The URL that an endpoint stands for.  Blanks around it do not count. -/
def ofEndpoint (endpoint : String) : Outcome Url :=
  let endpoint := trimText endpoint
  let written := if occursIn schemeMark.toList endpoint.toList then endpoint
    else "ws" ++ schemeMark ++ endpoint ++ "/"
  (Url.parse written).mapError .url

/-- The URL has a host. -/
def hasHost (u : Url) : Bool :=
  u.hierarchical && u.host ≠ .nobody

/-- The port that messages go to if the URL names none. -/
def messagePort? (scheme : String) : Option Nat :=
  if scheme = "ws" then some 80 else if scheme = "wss" then some 443 else none

/-- The scheme is one for messages. -/
def isForMessages (u : Url) : Bool :=
  (messagePort? u.scheme).isSome

/-- The fault of a scheme that is not for messages. -/
def wrongScheme : SocketFailure := .url "URL scheme not supported"

/-- The host and the port that a URL is dialled at.  The scheme counts only where the port has to
be guessed; otherwise it is looked at once the connection is there. -/
def target (u : Url) : Except SocketFailure (UrlHost × Nat) :=
  if !u.hasHost then .error (.format "invalid format")
  else
    match u.port <|> messagePort? u.scheme with
    | some port => .ok (u.host, port)
    | none => .error wrongScheme

end Url

/-- How a caller reaches a control server. -/
structure Dial where
  endpoint : String
  -- how long the connection and the first answer may take
  limit : Duration
deriving Repr, DecidableEq

namespace Dial

/-- The failure of a server that does not answer in time. -/
def unanswered (d : Dial) (u : Url) : Failure :=
  .unavailable ("control server at " ++ u.text ++ " did not answer within " ++ d.limit.render)

end Dial
end ClusterControl
