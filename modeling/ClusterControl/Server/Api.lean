import ClusterControl.Snapshot
import ClusterControl.Wire.Request
import ClusterControl.Wire.Response
/-!
# The operations of a control server

What a control server can be asked, whatever it is that carries the operations out and however long
they take, and how a request is turned into the one operation that it asks for and the outcome into
a response.
-/

namespace ClusterControl

/-- The operations of a control server. -/
structure Api (m : Type → Type) where
  ping : m UInt32
  start : StartParams → m (Outcome Snapshot)
  health : m (Outcome Snapshot)
  uris : m (Outcome (List String))
  status : m (Outcome Snapshot)
  removeNode : String → m (Outcome Snapshot)
  restartNode : String → StartParams → m (Outcome Snapshot)
  stop : m (Outcome Snapshot)

namespace Response

/-- The response to a call that gives something or fails. -/
def ofOutcome {α : Type} (f : α → Response) : Outcome α → Response
  | .ok v => f v
  | .error e => .error e.status

/-- The response to a call that gives a snapshot. -/
def ofSnapshot (outcome : Outcome Snapshot) : Response :=
  ofOutcome (fun s => .cluster s.info) outcome

end Response

/-- The failure of a request for a stream where only one response can be given. -/
def Failure.streamOnly : Failure :=
  .invalidArgument "stream_status is only served as a stream"

/-- Carries out a request and turns the outcome into a response. -/
def Api.dispatch {m : Type → Type} [Functor m] [Pure m] (api : Api m) : Request → m Response
  | .ping => Response.ping <$> api.ping
  | .start r => Response.ofSnapshot <$> api.start r.params
  | .health => Response.ofSnapshot <$> api.health
  | .uris => Response.ofOutcome Response.uris <$> api.uris
  | .status => Response.ofSnapshot <$> api.status
  | .streamStatus _ => pure (.error Failure.streamOnly.status)
  | .removeNode name => Response.ofSnapshot <$> api.removeNode name
  | .restartNode name r => Response.ofSnapshot <$> api.restartNode name r.params
  | .stop => Response.ofSnapshot <$> api.stop

end ClusterControl
