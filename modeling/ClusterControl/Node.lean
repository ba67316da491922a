import ClusterControl.Path
/-!
# Nodes

What is known of one validator node: how it is to be run, where it answers, and whether it does so
yet.  A node's URI and identifier come and go together.
-/

namespace ClusterControl

/-- How a node is run. -/
structure NodeConfig where
  name : String
  execPath : Path
  logDir : Path
  dbDir : Path
  subnets : String
  httpPort : Nat
  -- the port that it talks to its peers on
  stakingPort : Nat
  payload : List UInt8
deriving Repr, DecidableEq, Inhabited

/-- Where a healthy node answers. -/
structure Endpoint where
  uri : String
  id : String
deriving Repr, DecidableEq, Inhabited

/-- An endpoint in a message. -/
def Endpoint.text (e : Endpoint) : String :=
  e.uri ++ " (" ++ e.id ++ ")"

/-- What the registry knows of a node beyond its configuration. -/
structure NodeRecord where
  name : String
  endpoint : Option Endpoint
deriving Repr, DecidableEq, Inhabited

namespace NodeRecord

/-- A node that has not reported healthy yet. -/
def pending (name : String) : NodeRecord := ⟨name, none⟩

/-- A node that answers at an endpoint. -/
def ready (name : String) (e : Endpoint) : NodeRecord := ⟨name, some e⟩

/-- The node has reported healthy. -/
def isReady (r : NodeRecord) : Bool :=
  r.endpoint.isSome

/-- The node's URI; empty while it is pending. -/
def uri (r : NodeRecord) : String :=
  (r.endpoint.map Endpoint.uri).getD ""

/-- The node's identifier; empty while it is pending. -/
def id (r : NodeRecord) : String :=
  (r.endpoint.map Endpoint.id).getD ""

end NodeRecord

/-- A node as the launcher reports it once it is healthy. -/
structure NodeReport where
  name : String
  uri : String
  id : String
deriving Repr, DecidableEq, Inhabited

/-- What a caller asks for when a cluster or a node is to be started. -/
structure StartParams where
  execPath : Path := {}
  subnets : String := ""
  logLevel : Option String := none
deriving Repr, DecidableEq, Inhabited

end ClusterControl
