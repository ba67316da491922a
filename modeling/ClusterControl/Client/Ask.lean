import ClusterControl.Wire.Frame
import ClusterControl.Wire.Request
import ClusterControl.Wire.Response
/-!
# Questions to a control server

Each call of a client is a request and a way to take the response.  A call has a connection of its
own: the request goes out as one text frame, and the first text frame that comes back is the
response, whatever other frames come before it.
-/

namespace ClusterControl

/-- What a caller may ask for when it starts a cluster or a node. -/
structure StartOptions where
  subnets : Option String := none
  logLevel : Option String := none
deriving Repr, DecidableEq

/-- The request for an executable with these options. -/
def StartOptions.request (o : StartOptions) (execPath : Path) : StartRequest where
  execPath := execPath.text
  subnets := o.subnets
  logLevel := o.logLevel

/-- A question: the request, and how to take the response. -/
structure Ask (α : Type) where
  request : Request
  take : Response → Outcome α

namespace Ask

/-- Asks for the server's process. -/
def ping : Ask UInt32 := ⟨.ping, Response.pid?⟩

/-- Starts a cluster. -/
def start (execPath : Path) (options : StartOptions) : Ask ClusterInfo :=
  ⟨.start (options.request execPath), Response.cluster?⟩

/-- Asks for the cluster at this moment. -/
def health : Ask ClusterInfo := ⟨.health, Response.cluster?⟩

/-- Asks for the URIs of the cluster's nodes. -/
def uris : Ask (List String) := ⟨.uris, Response.uris?⟩

/-- Asks for the cluster at this moment. -/
def status : Ask ClusterInfo := ⟨.status, Response.cluster?⟩

/-- Takes a node out of the cluster. -/
def removeNode (name : String) : Ask ClusterInfo := ⟨.removeNode name, Response.cluster?⟩

/-- Launches a node anew. -/
def restartNode (name : String) (execPath : Path) (options : StartOptions) : Ask ClusterInfo :=
  ⟨.restartNode name (options.request execPath), Response.cluster?⟩

/-- Stops the cluster. -/
def stop : Ask ClusterInfo := ⟨.stop, Response.cluster?⟩

/-- The failure of a call whose connection ends before the response is there. -/
def closedEarly (method : Method) : Failure :=
  .unavailable ("connection closed before " ++ method.word ++ " returned")

/-- The response among what comes over the connection of a call, or why there is none; nothing as
long as neither is known. -/
def reply? (method : Method) : List Arrival → Option (Outcome Response)
  | [] => none
  | .frame (.text s) :: _ => some ((Response.parse s).mapError .json)
  | .frame .close :: _ => some (.error (closedEarly method))
  | .frame _ :: rest => reply? method rest
  | .failed cause :: _ => some (.error (.webSocket cause))
  | .ended :: _ => some (.error (closedEarly method))

/-- What the caller gets, by what comes over the connection. -/
def result? {α : Type} (a : Ask α) (arrivals : List Arrival) : Option (Outcome α) :=
  (reply? a.request.method arrivals).map fun r => r.bind a.take

end Ask
end ClusterControl
