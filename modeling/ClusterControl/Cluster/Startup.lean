import ClusterControl.Cluster.Basic
/-!
# Launching a cluster

A start moves a planned cluster on and sets off the launch.  The launch asks the launcher for the
nodes, waits for all of them to report healthy, and takes over the report.  However it ends, it says
so at last, and a failure is left for the one who waits for the outcome.
-/

namespace ClusterControl
namespace Cluster

/-- Starts a cluster, unless it was started or stopped before. -/
def start (c : Cluster) : Cluster :=
  if c.registry.state.canAdvance .launching then
    { c with registry := c.registry.advance .launching, starter := .spawned }
  else c

/-- The launch is over, and the cluster has failed. -/
def startFailed (c : Cluster) (e : Failure) : Cluster :=
  { c.leaveReport e with
    registry := c.registry.advance .failed
    starter := .ended
    startDone := true }

/-- The launch is over, unless the report is not good enough. -/
def published (c : Cluster) (reports : Table NodeReport) : Cluster :=
  match c.registry.publish reports with
  | .ok registry => { c with registry := registry, starter := .ended, startDone := true }
  | .error e => c.startFailed e

/-- The failure of a launch whose errand failed. -/
def launchFailure : Failure → Failure
  | .launch message => .launch message
  | e => .launch e.message

/-- Waits for the nodes, with the answer that is there so far. -/
def awaitHealthy (c : Cluster) (deadline : Nat) (reply : Pending (Table NodeReport)) : Cluster :=
  match c.judge deadline reply with
  | .still => { c with starter := .waiting deadline reply }
  | .reported reports => c.published reports
  | .failed e => c.startFailed e
  | .crashed => { c with starter := .crashed }

/-- The launch goes on. -/
def pollStarter (c : Cluster) : Cluster :=
  match c.starter with
  | .spawned =>
    { c with starter := .launching none }.ask .starter (.launch c.registry.orderedConfigs)
  | .launching (some (.ok ())) =>
    let c := { c with handle := true }
    match c.judge c.deadline (none : Pending Unit) with
    | .failed e => c.startFailed e
    | _ => { c with starter := .waiting c.deadline none }.ask .starter .waitHealthy
  | .launching (some (.error (.failed e))) => c.startFailed (launchFailure e)
  | .launching (some (.error .crashed)) => { c with starter := .crashed }
  | .waiting deadline reply => c.awaitHealthy deadline reply
  | _ => c

/-- The launch can go on. -/
def starterReady (c : Cluster) : Bool :=
  match c.starter with
  | .spawned => true
  | .launching reply => reply.isSome
  | .waiting deadline reply => c.stopSignal || deadline ≤ c.now || reply.isSome
  | _ => false

end Cluster
end ClusterControl
