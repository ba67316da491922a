import ClusterControl.Lifecycle
import ClusterControl.Node
import ClusterControl.Table
/-!
# Snapshots

The state of a whole cluster at one moment, as it is handed to readers.
-/

namespace ClusterControl

/-- A cluster at one moment. -/
structure Snapshot where
  names : List String
  records : Table NodeRecord
  configs : Table NodeConfig
  pid : UInt32
  rootDir : Path
  state : Lifecycle
  -- the cluster is healthy and every node has an endpoint
  healthy : Bool
deriving Repr, DecidableEq

namespace Snapshot

/-- The number of nodes. -/
def size (s : Snapshot) : Nat :=
  s.names.length

/-- There are no nodes. -/
def isEmpty (s : Snapshot) : Bool :=
  s.names.isEmpty

/-- What is known of a node. -/
def record? (s : Snapshot) (name : String) : Option NodeRecord :=
  s.records.get? name

/-- How a node is run. -/
def config? (s : Snapshot) (name : String) : Option NodeConfig :=
  s.configs.get? name

/-- The URIs of the nodes that have one, in launch order. -/
def uris (s : Snapshot) : List String :=
  ((s.names.filterMap s.record?).filter NodeRecord.isReady).map NodeRecord.uri

end Snapshot
end ClusterControl
