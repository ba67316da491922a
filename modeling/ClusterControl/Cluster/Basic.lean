import ClusterControl.Cluster.Registry
import ClusterControl.Plan
import ClusterControl.Roster
import ClusterControl.Settings
import ClusterControl.Snapshot
import ClusterControl.Sync.FairLock
import ClusterControl.Sync.Latch
/-!
# Clusters under control

One cluster for its whole life, as a state that several workers move on: the one that launches it,
the one that stops it, and one for every call.  Between two steps of a worker anything may happen;
a step itself is not interrupted.  What a worker waits for is part of its phase: the answer to an
errand, a deadline, a lock, or another worker.
-/

namespace ClusterControl

/-- How clusters are run. -/
structure ClusterOptions where
  nodeCount : Nat := 5
  basePort : Nat := 9650
  -- how long a start or a restart may take
  healthTimeout : Duration := .ofSecs 120
  -- what a restarted node is waited for with
  restartPolicy : RestartPolicy := .node
  rootDir : Path
deriving Repr, DecidableEq

/-- The plan of a cluster's nodes. -/
def ClusterOptions.plan (options : ClusterOptions) (params : StartParams) : Plan :=
  { Plan.ofParams params options.rootDir with
    nodeCount := options.nodeCount, basePort := options.basePort }

/-- Who works on a cluster. -/
inductive Worker
  | starter
  -- the one that publishes how the stop came out
  | keeper
  | stopper
  | caller (n : Nat)
deriving Repr, DecidableEq

/-- How far a launch is. -/
inductive StartPhase
  | unborn
  | spawned
  | launching (reply : Pending Unit)
  -- the nodes run and are to report healthy by this time
  | waiting (deadline : Nat) (reply : Pending (Table NodeReport))
  | ended
  | crashed
deriving Repr, DecidableEq

/-- How far a stop is, with the state that it found and the failures so far. -/
inductive StopPhase
  -- none was asked for, or it has not begun yet
  | unborn
  -- it stands in line behind changes of nodes
  | queued (prior : Lifecycle)
  -- the nodes are being shut down, for the first or for the last time
  | shutting (prior : Lifecycle) (last : Bool) (failures : List String) (reply : Pending Unit)
  -- it waits for the launch to be over
  | awaitingStart (prior : Lifecycle) (failures : List String)
  | ended
  | crashed
deriving Repr, DecidableEq

/-- A change of one node. -/
inductive Mutation
  | remove (name : String)
  | restart (name : String) (params : StartParams)
deriving Repr, DecidableEq

/-- The node that is changed. -/
def Mutation.name : Mutation → String
  | remove name => name
  | restart name _ => name

/-- A call on a cluster. -/
inductive ClusterCall
  | waitReady
  | stop
  | mutate (m : Mutation)
deriving Repr, DecidableEq

/-- How far a call is. -/
inductive CallPhase
  | fresh (call : ClusterCall)
  -- it waits for the launch to be over
  | awaitingReady
  -- it waits for the stop to be over
  | awaitingStop
  -- it stands in line behind other changes of nodes
  | queued (m : Mutation)
  | removing (name : String) (reply : Pending Unit)
  -- the node is being removed in order to be launched anew
  | replacing (name : String) (config : NodeConfig) (reply : Pending Unit)
  | adding (name : String) (config : NodeConfig) (reply : Pending Unit)
  -- the node is to report healthy by this time
  | awaitingNode (name : String) (deadline : Nat) (reply : Pending NodeReport)
  -- all nodes are to report healthy by this time
  | awaitingAll (name : String) (deadline : Nat) (reply : Pending (Table NodeReport))
  -- the node is being removed because it could not be launched anew
  | cleaning (name : String) (cause : Failure) (reply : Pending Unit)
  | returned (result : Outcome Snapshot)
  | crashed
deriving Repr, DecidableEq

/-- How a stop came out, for all its callers. -/
abbrev StopOutcome := Except String Snapshot

/-- What went on between a cluster and its launcher. -/
inductive JournalEntry
  | asked (w : Worker) (errand : Errand)
  | answered (w : Worker) (errand : Errand) (reply : Reply)
deriving Repr, DecidableEq

/-- All that went on between a cluster and its launcher, newest first. -/
abbrev Journal := List JournalEntry

/-- A cluster under control. -/
structure Cluster where
  pid : UInt32
  rootDir : Path
  -- how long a start or a restart may take
  healthTimeout : Duration
  -- what a restarted node is waited for with
  restartPolicy : RestartPolicy
  now : Nat := 0
  registry : Registry
  -- the launched nodes are there to be worked with
  handle : Bool := false
  stopSignal : Bool := false
  startDone : Bool := false
  -- why the launch failed, until somebody reads it
  report : Option Failure := none
  -- the outcome of the start belongs to a caller
  reportTaken : Bool := false
  -- held by whoever changes nodes or stops the cluster
  lock : FairLock Worker := {}
  starter : StartPhase := .unborn
  stopper : StopPhase := .unborn
  -- makes the stop happen once for all its callers
  latch : Latch StopOutcome := {}
  callers : Roster CallPhase := {}
  journal : Journal := []
deriving Repr, DecidableEq

namespace Cluster

/-- Plans a cluster.  Nothing is launched yet; only the directory that holds every node's directory
is made, unless there is an obstacle. -/
def plan (options : ClusterOptions) (params : StartParams) (pid : UInt32)
    (obstacle : Option IoError) : Outcome Cluster := do
  if let some cause := obstacle then
    .error (.config (.logDir options.rootDir.text cause))
  let configs ← (options.plan params).build
  .ok {
    pid := pid
    rootDir := options.rootDir
    healthTimeout := options.healthTimeout
    restartPolicy := options.restartPolicy
    registry := .ofConfigs configs }

/-- The cluster at this moment. -/
def snapshot (c : Cluster) : Snapshot where
  names := c.registry.names
  records := c.registry.records
  configs := c.registry.configs
  pid := c.pid
  rootDir := c.rootDir
  state := c.registry.state
  healthy := c.registry.isHealthy

/-- Notes that an errand begins. -/
def ask (c : Cluster) (w : Worker) (errand : Errand) : Cluster :=
  { c with journal := .asked w errand :: c.journal }

/-- Leaves a failure for whoever reads the outcome of the start; there is room for one. -/
def leaveReport (c : Cluster) (e : Failure) : Cluster :=
  { c with report := some (c.report.getD e) }

/-- The time by which nodes that are waited for from now on have to report healthy. -/
def deadline (c : Cluster) : Nat :=
  c.now + c.healthTimeout.ticks

end Cluster

/-- What a bounded wait comes to when it is looked at. -/
inductive Verdict (α : Type)
  | still
  | reported (v : α)
  | failed (e : Failure)
  | crashed
deriving Repr, DecidableEq

/-- Looks at a wait for healthy nodes.  A stop goes before the deadline, and the deadline before the
launcher's answer. -/
def Cluster.judge {α : Type} (c : Cluster) (deadline : Nat) (reply : Pending α) : Verdict α :=
  if c.stopSignal then .failed .aborted
  else if deadline ≤ c.now then .failed (.healthTimeout c.healthTimeout)
  else
    match reply with
    | none => .still
    | some (.ok v) => .reported v
    | some (.error (.failed e)) => .failed e
    | some (.error .crashed) => .crashed

end ClusterControl
