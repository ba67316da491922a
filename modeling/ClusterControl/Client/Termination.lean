import ClusterControl.Status
/-!
# How a stream ended

A stream of reports ends because the server closed it, because the caller gave up, or because the
connection broke; only the last is a failure.  A caller's giving up comes back from the connection
in several wordings.
-/

namespace ClusterControl

/-- What a reader of a stream met at its end. -/
inductive StreamEnd
  | closed
  | failed (status : Status)
deriving Repr, DecidableEq

/-- How a stream ended. -/
inductive Termination
  | callerCancelled
  | cleanEof
  | transportFailure (status : Status)
deriving Repr, DecidableEq

namespace Termination

/-- The end was a failure. -/
def isFailure : Termination → Bool
  | transportFailure _ => true
  | _ => false

/-- The word for an end. -/
def word : Termination → String
  | callerCancelled => "CallerCancelled"
  | cleanEof => "CleanEof"
  | transportFailure _ => "TransportFailure"

/-- The message of a connection whose caller left. -/
def clientDisconnected : String := "client disconnected"

/-- How the message of a failed stream begins. -/
def streamErrorHead : String := "stream error: "

/-- How the message of a cancelled stream ends. -/
def cancelEnd : String := "; CANCEL"

/-- A message of an unreachable server that means that the caller gave up.  The length of a message
is its number of bytes. -/
def isCancelMessage (message : String) : Bool :=
  message = clientDisconnected ||
    (streamErrorHead.utf8ByteSize + cancelEnd.utf8ByteSize ≤ message.utf8ByteSize &&
      streamErrorHead.toList.isPrefixOf message.toList &&
      cancelEnd.toList.isSuffixOf message.toList)

/-- How a stream ended, by what its reader met.  If the caller's own context was done by then,
nothing else counts. -/
def classify (contextDone : Bool) (met : StreamEnd) : Termination :=
  if contextDone then callerCancelled
  else
    match met with
    | .closed => cleanEof
    | .failed status =>
      match status.code with
      | .canceled => callerCancelled
      | .deadlineExceeded => callerCancelled
      | .unavailable =>
        if isCancelMessage status.message then callerCancelled else transportFailure status
      | _ => transportFailure status

end Termination
end ClusterControl
