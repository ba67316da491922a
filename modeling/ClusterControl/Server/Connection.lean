import ClusterControl.Server.Api
import ClusterControl.Wire.Frame
/-!
# Connections of a control server

What a control server does on one connection.  The first text frame is the request; nothing that
comes before it counts, and nothing is ever sent to a caller who leaves without one.  A request for
one response gets it, and the connection is closed.  A request for a stream gets a report for each
snapshot that is taken from the feed, until the feed ends or the server shuts down; meanwhile a
second reader watches for the caller to leave, and cancels the feed then.
-/

namespace ClusterControl

/-- What the first text frame asks for. -/
inductive Opening
  -- nothing that the server knows; this is the response
  | refused (response : Response)
  | operation (request : Request)
  -- a stream of reports, this many milliseconds apart
  | stream (intervalMs : UInt64)
deriving Repr, DecidableEq

namespace Opening

/-- The failure of a request that cannot be read. -/
def malformed (fault : JsonError) : Failure :=
  .invalidArgument ("malformed request: " ++ fault.message)

/-- The failure of a request for a stream without pauses. -/
def noInterval : Failure :=
  .invalidArgument "push_interval_ms must be greater than zero"

/-- What a request asks for. -/
def ofRequest : Request → Opening
  | .streamStatus ms => if ms = 0 then refused (.error noInterval.status) else stream ms
  | request => operation request

/-- What a text asks for. -/
def ofText (text : String) : Opening :=
  match Request.parse text with
  | .ok request => ofRequest request
  | .error fault => refused (.error (malformed fault).status)

end Opening

/-- How far a connection is. -/
inductive ConnectionPhase
  | listening
  -- the operation that was asked for is under way
  | operating (request : Request)
  -- it waits for a snapshot of the feed
  | streaming
  | sending (s : Snapshot)
  | over
deriving Repr, DecidableEq

/-- A connection of a control server. -/
structure Connection where
  -- what has come in and has not been read
  inbox : List Arrival := []
  phase : ConnectionPhase := .listening
  stopping : Bool := false
  sent : List Response := []
  closed : Bool := false
  -- the operations that were asked of the server
  invoked : List Request := []
  watching : Bool := false
  cancelled : Bool := false
  -- the newest snapshot of the feed that was not taken
  pending : Option Snapshot := none
  feedEnded : Bool := false
  -- the snapshots that were taken from the feed
  taken : List Snapshot := []
deriving Repr, DecidableEq

namespace Connection

/-- Sends a last response, if any, and closes the connection. -/
def finish (c : Connection) (last : Option Response) : Connection :=
  { c with sent := c.sent ++ last.toList, closed := true, watching := false, phase := .over }

/-- Does what the request asks for; `feed` is what the server says to a request for a stream. -/
def serve (c : Connection) (feed : Outcome Unit) : Opening → Connection
  | .refused response => c.finish (some response)
  | .operation request =>
    { c with phase := .operating request, invoked := c.invoked ++ [request] }
  | .stream ms =>
    let c := { c with invoked := c.invoked ++ [Request.streamStatus ms] }
    match feed with
    | .ok () => { c with phase := .streaming, watching := true }
    | .error e => c.finish (some (.error e.status))

/-- Reads an arrival in search of the request. -/
def listen (c : Connection) (feed : Outcome Unit) (a : Arrival) : Connection :=
  match a.text? with
  | some text => c.serve feed (.ofText text)
  | none => if a.isDeparture then { c with phase := .over } else c

/-- The connection goes on by one step, if it can. -/
def poll (c : Connection) (feed : Outcome Unit) : Connection :=
  match c.phase with
  | .listening =>
    match c.inbox with
    | [] => c
    | a :: rest => { c with inbox := rest }.listen feed a
  | .streaming =>
    if c.stopping then c.finish none
    else
      match c.pending with
      | some s => { c with pending := none, taken := c.taken ++ [s], phase := .sending s }
      | none => if c.feedEnded then c.finish none else c
  | _ => c

/-- The reader that watches the caller goes on by one step, if it can. -/
def pollWatcher (c : Connection) : Connection :=
  if c.watching then
    match c.inbox with
    | [] => c
    | a :: rest =>
      if a.isDeparture then { c with inbox := rest, cancelled := true, watching := false }
      else { c with inbox := rest }
  else c

/-- The operation gives its response. -/
def answer (c : Connection) (response : Response) : Connection :=
  match c.phase with
  | .operating _ => c.finish (some response)
  | _ => c

/-- The report that is being sent is out. -/
def flush (c : Connection) : Connection :=
  match c.phase with
  | .sending s => { c with sent := c.sent ++ [.cluster s.info], phase := .streaming }
  | _ => c

/-- What can happen to a connection. -/
inductive Event
  | arrive (a : Arrival)
  | poll (feed : Outcome Unit)
  | pollWatcher
  | answer (response : Response)
  | offer (s : Snapshot)
  | feedEnds
  | flush
  | shutDown
deriving Repr, DecidableEq

/-- One event. -/
def step (c : Connection) : Event → Connection
  | .arrive a => { c with inbox := c.inbox ++ [a] }
  | .poll feed => c.poll feed
  | .pollWatcher => c.pollWatcher
  | .answer response => c.answer response
  | .offer s => { c with pending := some s }
  | .feedEnds => { c with feedEnded := true }
  | .flush => c.flush
  | .shutDown => { c with stopping := true }

/-- Many events, one after the other. -/
def run (c : Connection) (events : List Event) : Connection :=
  events.foldl step c

end Connection

/-- The response to a text that asks for an operation, by the operations of a server; a text that
asks for a stream gets none. -/
def Api.respond {m : Type → Type} [Functor m] [Pure m] (api : Api m) (text : String) :
    Option (m Response) :=
  match Opening.ofText text with
  | .refused response => some (pure response)
  | .operation request => some (api.dispatch request)
  | .stream _ => none

end ClusterControl
