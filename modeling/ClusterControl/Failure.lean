import ClusterControl.Json.Reading
import ClusterControl.Lifecycle
import ClusterControl.Net.HttpStatus
import ClusterControl.Net.Url
import ClusterControl.Status
import ClusterControl.Text.Duration
import ClusterControl.Text.SystemCause
/-!
# Failures

Why an operation failed: every cause, its wording, and the status by which a remote caller is told.
A status that came from a remote server is passed on as it is.
-/

namespace ClusterControl

/-- What is wrong with a configuration. -/
inductive ConfigFailure
  | missingField (field : String)
  -- a field has a value that is not allowed
  | invalidValue (field reason : String)
  | unreadable (cause : IoError)
  -- the file is not in the format of a configuration
  | unparsable
  | logDir (path : String) (cause : IoError)
deriving Repr, DecidableEq

/-- The text of a configuration failure. -/
def ConfigFailure.message : ConfigFailure → String
  | missingField field => "missing required field: " ++ field
  | invalidValue field reason => "invalid value for " ++ field ++ ": " ++ reason
  | unreadable cause => "failed to read config file: " ++ cause.message
  | unparsable => "failed to parse config: "
  | logDir path cause => "failed to initialize log directory " ++ path ++ ": " ++ cause.message

/-- What is wrong with a message connection. -/
inductive SocketFailure
  | closed
  | alreadyClosed
  | notText
  | io (cause : IoError)
  -- the connection was lost without being closed in due form
  | reset
  -- the other side refused the handshake with an answer code
  | refused (status : Nat)
  -- the other side left in the middle of the handshake
  | unfinished
  | url (fault : String)
  | format (fault : String)
deriving Repr, DecidableEq

/-- The text of a connection failure. -/
def SocketFailure.message : SocketFailure → String
  | closed => "Connection closed normally"
  | alreadyClosed => "Trying to work with closed connection"
  | notText => "UTF-8 encoding error"
  | io cause => "IO error: " ++ cause.message
  | reset => "WebSocket protocol error: Connection reset without closing handshake"
  | refused status => "HTTP error: " ++ httpStatusText status
  | unfinished => "WebSocket protocol error: Handshake not finished"
  | url fault => "URL error: " ++ fault
  | format fault => "HTTP format error: " ++ fault

/-- Why an operation failed. -/
inductive Failure
  | config (cause : ConfigFailure)
  | launch (message : String)
  | healthTimeout (limit : Duration)
  | aborted
  | notFound (name : String)
  | alreadyExists
  | unavailable (message : String)
  -- the cluster is not in a state for it
  | notReady (state : Lifecycle)
  | invalidArgument (message : String)
  | shutdown (message : String)
  | remote (status : Status)
  | webSocket (cause : SocketFailure)
  | json (cause : JsonError)
  | http
  | io (cause : IoError)
  | url (fault : UrlFault)
  | internal (message : String)
deriving Repr, DecidableEq

namespace Failure

/-- The text of a failure. -/
def message : Failure → String
  | config cause => cause.message
  | launch message => "failed to launch cluster: " ++ message
  | healthTimeout limit => "cluster did not become healthy within " ++ limit.render
  | aborted => "aborted"
  | notFound name => "node not found: " ++ name
  | alreadyExists => "cluster already exists"
  | unavailable message => "unavailable: " ++ message
  | notReady state => "cluster is not ready (state: " ++ state.word ++ ")"
  | invalidArgument message => "invalid argument: " ++ message
  | shutdown message => "shutdown failed: " ++ message
  | remote status => status.render
  | webSocket cause => "WebSocket error: " ++ cause.message
  | json cause => "JSON parsing error: " ++ cause.message
  | http => "HTTP error: "
  | io cause => "IO error: " ++ cause.message
  | url fault => "URL parse error: " ++ fault.message
  | internal message => "internal error: " ++ message

/-- The code of a failure. -/
def code : Failure → Code
  | config _ => .invalidArgument
  | invalidArgument _ => .invalidArgument
  | healthTimeout _ => .deadlineExceeded
  | aborted => .aborted
  | notFound _ => .notFound
  | alreadyExists => .alreadyExists
  | unavailable _ => .unavailable
  | notReady _ => .failedPrecondition
  | remote status => status.code
  | _ => .internal

/-- The status that tells a remote caller of a failure. -/
def status : Failure → Status
  | remote status => status
  | failure => ⟨failure.code, failure.message⟩

end Failure

/-- A status as a failure of the call that it answers. -/
def Status.failure (s : Status) : Failure := .remote s

/-- Two outcomes can be compared if what they hold can be. -/
instance decidableEqOutcome {ε α : Type} [DecidableEq ε] [DecidableEq α] :
    DecidableEq (Except ε α)
  | .ok a, .ok b => if h : a = b then isTrue (h ▸ rfl) else isFalse fun hab => h (Except.ok.inj hab)
  | .error a, .error b =>
    if h : a = b then isTrue (h ▸ rfl) else isFalse fun hab => h (Except.error.inj hab)
  | .ok _, .error _ => isFalse fun h => nomatch h
  | .error _, .ok _ => isFalse fun h => nomatch h

/-- What an operation gives. -/
abbrev Outcome (α : Type) := Except Failure α

end ClusterControl
