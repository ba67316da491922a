import ClusterControl.Cluster.Errand
import ClusterControl.Lifecycle
/-!
# The registry of a cluster

Which nodes a cluster has, how each is run, and what is known of each.  Its readers only ever see
copies.
-/

namespace ClusterControl

/-- The registry of a cluster. -/
structure Registry where
  state : Lifecycle := .created
  -- the names of the nodes, in launch order
  names : List String
  configs : Table NodeConfig
  records : Table NodeRecord
deriving Repr, DecidableEq

namespace Registry

/-- The registry of planned nodes, none of which runs yet. -/
def ofConfigs (configs : List NodeConfig) : Registry where
  names := configs.map NodeConfig.name
  configs := .ofList (configs.map fun c => (c.name, c))
  records := .ofList (configs.map fun c => (c.name, .pending c.name))

/-- How the nodes are run, in launch order. -/
def orderedConfigs (r : Registry) : List NodeConfig :=
  r.names.filterMap r.configs.get?

/-- Attempts to move the state on. -/
def advance (r : Registry) (next : Lifecycle) : Registry :=
  { r with state := r.state.advance next }

/-- The cluster is healthy and every node has an endpoint. -/
def isHealthy (r : Registry) : Bool :=
  r.state = .healthy && r.records.values.all NodeRecord.isReady

/-- Forgets a node. -/
def forget (r : Registry) (name : String) : Registry :=
  { r with names := r.names.filter (· != name)
           records := r.records.erase name
           configs := r.configs.erase name }

/-- A node is on its way to run in a new way. -/
def restarting (r : Registry) (name : String) (config : NodeConfig) : Registry :=
  { r with records := r.records.insert name (.pending name)
           configs := r.configs.insert name config }

/-- A node runs and answers at an endpoint. -/
def restarted (r : Registry) (name : String) (e : Endpoint) : Registry :=
  { r with records := r.records.insert name (.ready name e) }

/-- The records of nodes that were all reported; of several that are missing or incomplete the first
one counts. -/
def readyRecords (reports : Table NodeReport) : List String → Outcome (List (String × NodeRecord))
  | [] => .ok []
  | name :: rest =>
    match reports.get? name with
    | none => .error (.missingNode name)
    | some report => do
      let e ← report.endpoint
      .ok ((name, .ready name e) :: (← readyRecords reports rest))

/-- Takes over the report on a cluster that has become healthy: all of it or nothing. -/
def publish (r : Registry) (reports : Table NodeReport) : Outcome Registry := do
  let records ← readyRecords reports r.names
  if r.state.canAdvance .healthy then
    .ok { r with state := .healthy, records := .ofList records }
  else .error .aborted

end Registry
end ClusterControl
