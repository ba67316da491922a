import ClusterControl.Failure
/-!
# Frames

What goes over a message connection, and what the end that reads it may find instead of a frame.
-/

namespace ClusterControl

/-- A frame on a message connection. -/
inductive Frame
  | text (s : String)
  | binary (bytes : List UInt8)
  -- a sign of life that asks for another one
  | ping (bytes : List UInt8)
  | pong (bytes : List UInt8)
  -- the end of what the other side has to say
  | close
deriving Repr, DecidableEq

/-- What a reader finds on a message connection. -/
inductive Arrival
  | frame (f : Frame)
  | failed (cause : SocketFailure)
  | ended
deriving Repr, DecidableEq

namespace Arrival

/-- The other side has left, in due form or not. -/
def isDeparture : Arrival → Bool
  | frame .close => true
  | failed _ => true
  | ended => true
  | _ => false

/-- The text that a frame holds, if it is a text frame. -/
def text? : Arrival → Option String
  | frame (.text s) => some s
  | _ => none

end Arrival
end ClusterControl
