import ClusterControl.Client.Termination
import ClusterControl.Sync.Signal
import ClusterControl.Wire.Frame
import ClusterControl.Wire.Response
/-!
# Reading a status stream

The loop that reads a status stream for a consumer.  It hands one report over at a time and does not
read on before the consumer has room for it.  Before each read and each handover it looks whether
the caller's context is done or the client was closed; that ends the loop whatever else there is.  It
looks once more between reading the end of the stream and saying what that end was.
-/

namespace ClusterControl

/-- What an arrival means on a status stream. -/
inductive StreamNews
  | report (info : ClusterInfo)
  | nothing
  | ending (met : StreamEnd)
deriving Repr, DecidableEq

/-- The end of a stream by a fault of the connection.  A connection that was closed has just
ended. -/
def SocketFailure.streamEnd : SocketFailure → StreamEnd
  | closed => .closed
  | alreadyClosed => .closed
  | cause => .failed ⟨.unavailable, cause.message⟩

/-- What the text of a frame means on a status stream. -/
def StreamNews.ofText (text : String) : StreamNews :=
  match Response.parse text with
  | .ok (.cluster info) => .report info
  | .ok (.error status) => .ending (.failed status)
  | .ok other =>
    .ending (.failed ⟨.internal, "unexpected frame on status stream: " ++ other.describe⟩)
  | .error fault =>
    .ending (.failed ⟨.internal, "malformed status frame: " ++ fault.message⟩)

/-- What an arrival means on a status stream. -/
def Arrival.news : Arrival → StreamNews
  | frame (.text s) => .ofText s
  | frame .close => .ending .closed
  | frame _ => .nothing
  | failed cause => .ending cause.streamEnd
  | ended => .ending .closed

/-- How far the loop is. -/
inductive ReaderPhase
  | reading
  | delivering (info : ClusterInfo)
  -- it has read the end and has not said what it was
  | closing (met : StreamEnd)
  | ended (why : Termination)
deriving Repr, DecidableEq

/-- The loop, between a connection and a consumer. -/
structure StatusReader where
  -- what has come over the connection and has not been read
  inbox : List Arrival := []
  contextDone : Bool := false
  -- a client that goes away without being closed leaves its streams alone
  clientClosed : Signal := .pending
  consumerGone : Bool := false
  -- the report that was handed over and has not been taken
  handover : Option ClusterInfo := none
  phase : ReaderPhase := .reading
deriving Repr, DecidableEq

namespace StatusReader

/-- The caller has given up. -/
def givenUp (r : StatusReader) : Bool :=
  r.contextDone || r.clientClosed = .raised

/-- The loop ends. -/
def finish (r : StatusReader) (why : Termination) : StatusReader :=
  { r with phase := .ended why }

/-- The loop reads an arrival. -/
def read (r : StatusReader) (a : Arrival) : StatusReader :=
  match a.news with
  | .report info => { r with phase := .delivering info }
  | .nothing => r
  | .ending met => { r with phase := .closing met }

/-- The loop goes on by one step, if it can. -/
def poll (r : StatusReader) : StatusReader :=
  match r.phase with
  | .reading =>
    if r.givenUp then r.finish .callerCancelled
    else
      match r.inbox with
      | [] => r
      | a :: rest => { r with inbox := rest }.read a
  | .delivering info =>
    if r.givenUp || r.consumerGone then r.finish .callerCancelled
    else if r.handover.isSome then r
    else { r with handover := some info, phase := .reading }
  | .closing met => r.finish (.classify r.givenUp met)
  | .ended _ => r

/-- What can happen to the loop. -/
inductive Event
  | arrive (a : Arrival)
  -- the context is cancelled, or its time is up
  | contextDone
  | clientClosed
  | clientDropped
  | take
  | consumerGone
  | poll
deriving Repr, DecidableEq

/-- One event. -/
def step (r : StatusReader) : Event → StatusReader
  | .arrive a => { r with inbox := r.inbox ++ [a] }
  | .contextDone => { r with contextDone := true }
  | .clientClosed => { r with clientClosed := r.clientClosed.raise }
  | .clientDropped => { r with clientClosed := r.clientClosed.abandon }
  | .take => { r with handover := none }
  | .consumerGone => { r with consumerGone := true, handover := none }
  | .poll => r.poll

/-- Many events, one after the other. -/
def run (r : StatusReader) (events : List Event) : StatusReader :=
  events.foldl step r

/-- The reports that the consumer takes in the course of some events. -/
def taken (r : StatusReader) : List Event → List ClusterInfo
  | [] => []
  | .take :: events => r.handover.toList ++ (r.step .take).taken events
  | e :: events => (r.step e).taken events

/-- How the stream ended, once it has. -/
def end? (r : StatusReader) : Option Termination :=
  match r.phase with
  | .ended why => some why
  | _ => none

/-- The loop goes on for as long as it can, with a bound on the number of steps. -/
def settle : Nat → StatusReader → StatusReader
  | 0, r => r
  | n + 1, r => if r.poll = r then r else settle n r.poll

/-- The loop goes on for as long as it can: it takes at most two steps for each arrival, and one or
two to end. -/
def settled (r : StatusReader) : StatusReader :=
  settle (2 * r.inbox.length + 2) r

end StatusReader
end ClusterControl
