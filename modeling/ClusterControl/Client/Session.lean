import ClusterControl.Client.Ask
import ClusterControl.Client.Dial
import ClusterControl.Client.StatusReader
import ClusterControl.Net.Reach
/-!
# Sessions of a client

A client that calls one control server, whose side of each connection is known in advance: why it
refuses the handshake, or what it sends once the request is there.  A client is connected once the
server has answered a first question for its process.
-/

namespace ClusterControl

/-- The server's side of a connection. -/
structure Line where
  fault : Option SocketFailure := none
  arrivals : List Arrival := []
deriving Repr, DecidableEq

/-- The server's side of a connection on which it answers the handshake with these bytes. -/
def Line.ofHandshake (answer : String) : Line :=
  let code := ((answer.toList.dropWhile (· ≠ ' ')).drop 1).takeWhile Char.isDigit
  match (String.ofList code).toNat? with
  | some status => { fault := some (.refused status) }
  | none => { fault := some .unfinished }

/-- A client and what it is connected to. -/
structure Session where
  dial : Dial
  url : Url
  reach : Reach
  lines : List Line
  -- the requests that the server has read, the newest last
  sent : List Request := []
  closed : Bool := false

/-- What a reader of a stream is going to do besides reading it. -/
structure Following where
  -- the context is done before the stream is opened
  cancelled : Bool := false
  limited : Bool := false
  cancelAfter : Option Nat := none
  closeAfter : Option Nat := none
  finishAfter : Option Nat := none
deriving Repr, DecidableEq

/-- What came of reading a stream. -/
structure Followed where
  got : List ClusterInfo := []
  -- how it ended; nothing if it goes on for ever
  ended : Option Termination := none
deriving Repr, DecidableEq

namespace Session

/-- What comes over a new connection once the request is out, or why there is no connection. -/
def opened (s : Session) (request : Request) : Outcome (List Arrival) × Session :=
  match s.url.target with
  | .error cause => (.error (.webSocket cause), s)
  | .ok (host, port) =>
    match s.reach.obstacle? host port with
    | some cause => (.error (.webSocket (.io cause)), s)
    | none =>
      if !s.url.isForMessages then (.error (.webSocket Url.wrongScheme), s)
      else
        match s.lines with
        | [] => (.ok [.ended], { s with sent := s.sent ++ [request] })
        | line :: rest =>
          match line.fault with
          | some cause => (.error (.webSocket cause), { s with lines := rest })
          | none => (.ok line.arrivals, { s with lines := rest, sent := s.sent ++ [request] })

/-- Asks a question; nothing if the answer never comes. -/
def ask {α : Type} (s : Session) (a : Ask α) : Option (Outcome α) × Session :=
  match s.opened a.request with
  | (.error e, s) => (some (.error e), s)
  | (.ok arrivals, s) => (a.result? arrivals, s)

/-- Connects to a server, and tells which requests the server has read. -/
def connect (d : Dial) (reach : Reach) (lines : List Line) : Outcome Session × List Request :=
  match Url.ofEndpoint d.endpoint with
  | .error e => (.error e, [])
  | .ok url =>
    match ask { dial := d, url := url, reach := reach, lines := lines } Ask.ping with
    | (some (.ok _), s) => (.ok s, s.sent)
    | (some (.error e), s) => (.error e, s.sent)
    | (none, s) => (.error (d.unanswered url), s.sent)

/-- Reads a stream to its end, with a bound on the number of reports. -/
def drain (f : Following) : Nat → StatusReader → List ClusterInfo → Followed × StatusReader
  | 0, r, got => (⟨got.reverse, r.end?⟩, r)
  | n + 1, r, got =>
    let r := r.settled
    match r.handover with
    | some info =>
      let r := r.step .take
      let got := info :: got
      let at? (limit : Option Nat) : Bool := limit = some got.length
      if at? f.finishAfter then
        let r := (r.step .consumerGone).settled
        (⟨got.reverse, r.end?⟩, r)
      else
        let r := if at? f.cancelAfter then r.step .contextDone else r
        let r := if at? f.closeAfter then r.step .clientClosed else r
        drain f n r got
    | none =>
      if r.end?.isNone && f.limited then
        let r := (r.step .contextDone).settled
        (⟨got.reverse, r.end?⟩, r)
      else (⟨got.reverse, r.end?⟩, r)

/-- Opens a stream and reads it. -/
def follow (s : Session) (intervalMs : UInt64) (f : Following) : Outcome Followed × Session :=
  match s.opened (.streamStatus intervalMs) with
  | (.error e, s) => (.error e, s)
  | (.ok arrivals, s) =>
    let (followed, r) := drain f (arrivals.length + 1)
      { inbox := arrivals, contextDone := f.cancelled, clientClosed := .ofBool s.closed } []
    (.ok followed, { s with closed := s.closed || r.clientClosed = .raised })

/-- Closes the client, which ends every stream that it reads. -/
def close (s : Session) : Session :=
  { s with closed := true }

end Session
end ClusterControl
