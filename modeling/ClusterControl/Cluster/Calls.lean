import ClusterControl.Cluster.Basic
/-!
# Calls on a cluster

A call waits for the start, for the stop, or changes one node.  Changes of nodes are made one after
the other, in the order in which they asked for the lock, and only while the cluster is healthy.  A
node that cannot be launched anew is taken out.
-/

namespace ClusterControl
namespace Cluster

/-- Puts a call into a phase. -/
def setCall (c : Cluster) (n : Nat) (phase : CallPhase) : Cluster :=
  { c with callers := c.callers.set n phase }

/-- A change of a node is over. -/
def conclude (c : Cluster) (n : Nat) (result : Outcome Snapshot) : Cluster :=
  { c.setCall n (.returned result) with lock := c.lock.release }

/-- A change of a node was cut short because the launcher broke down over it. -/
def breakOff (c : Cluster) (n : Nat) : Cluster :=
  { c.setCall n .crashed with lock := c.lock.release }

/-- Why a node cannot be changed, if it cannot. -/
def refusal? (c : Cluster) (name : String) : Option Failure :=
  if !c.registry.records.contains name then some (.notFound name)
  else if c.registry.state ≠ .healthy then some (.notReady c.registry.state)
  else if !c.handle then some (.notReady c.registry.state)
  else none

/-- A node that could not be launched anew is removed. -/
def cleanUp (c : Cluster) (n : Nat) (name : String) (cause : Failure) : Cluster :=
  (c.setCall n (.cleaning name cause none)).ask (.caller n) (.remove name)

/-- A node that was launched anew has reported. -/
def restarted (c : Cluster) (n : Nat) (name : String) (report : NodeReport) : Cluster :=
  match report.endpoint with
  | .ok e =>
    let c := { c with registry := c.registry.restarted name e }
    c.conclude n (.ok c.snapshot)
  | .error e => c.cleanUp n name e

/-- Waits for a node that was launched anew, with the answer that is there so far. -/
def awaitNode (c : Cluster) (n : Nat) (name : String) (deadline : Nat)
    (reply : Pending NodeReport) : Cluster :=
  match c.judge deadline reply with
  | .still => c.setCall n (.awaitingNode name deadline reply)
  | .reported report => c.restarted n name report
  | .failed e => c.cleanUp n name e
  | .crashed => c.breakOff n

/-- Waits for all nodes after one was launched anew, with the answer that is there so far. -/
def awaitAll (c : Cluster) (n : Nat) (name : String) (deadline : Nat)
    (reply : Pending (Table NodeReport)) : Cluster :=
  match c.judge deadline reply with
  | .still => c.setCall n (.awaitingAll name deadline reply)
  | .reported reports =>
    match reports.get? name with
    | some report => c.restarted n name report
    | none => c.cleanUp n name (.missingNode name)
  | .failed e => c.cleanUp n name e
  | .crashed => c.breakOff n

/-- Begins to wait for a node that was launched anew, as the policy says. -/
def awaitRestart (c : Cluster) (n : Nat) (name : String) : Cluster :=
  match c.judge c.deadline (none : Pending Unit) with
  | .failed e => c.cleanUp n name e
  | _ =>
    match c.restartPolicy with
    | .node => (c.setCall n (.awaitingNode name c.deadline none)).ask (.caller n) (.waitNode name)
    | .cluster => (c.setCall n (.awaitingAll name c.deadline none)).ask (.caller n) .waitHealthy

/-- Begins to change a node, once the lock is there. -/
def beginMutation (c : Cluster) (n : Nat) (m : Mutation) : Cluster :=
  match c.refusal? m.name with
  | some e => c.conclude n (.error e)
  | none =>
    match m with
    | .remove name => (c.setCall n (.removing name none)).ask (.caller n) (.remove name)
    | .restart name params =>
      match c.registry.configs.get? name with
      | none => c.conclude n (.error (.notFound name))
      | some previous =>
        (c.setCall n (.replacing name (previous.relaunch params) none)).ask (.caller n)
          (.remove name)

/-- The outcome of the start, once the launch is over; a failure is handed out once. -/
def readReport (c : Cluster) (n : Nat) : Cluster :=
  if c.startDone then
    match c.report with
    | some e => { c.setCall n (.returned (.error e)) with report := none }
    | none => c.setCall n (.returned (.ok c.snapshot))
  else c.setCall n .awaitingReady

/-- The outcome of the stop, once it is over. -/
def readStop (c : Cluster) (n : Nat) : Cluster :=
  match c.latch.outcome? with
  | some (some (.ok snapshot)) => c.setCall n (.returned (.ok snapshot))
  | some (some (.error message)) => c.setCall n (.returned (.error (.shutdown message)))
  | some none => c.setCall n (.returned (.error (.internal "shutdown task panicked")))
  | none => c.setCall n .awaitingStop

/-- A call begins. -/
def beginCall (c : Cluster) (n : Nat) : ClusterCall → Cluster
  | .waitReady =>
    if c.reportTaken then
      c.setCall n (.returned (.error (.internal "start outcome already consumed")))
    else { c with reportTaken := true }.readReport n
  | .stop => { c with latch := c.latch.claim }.readStop n
  | .mutate m =>
    let c := { c with lock := c.lock.request (.caller n) }
    if c.lock.isHeldBy (.caller n) then c.beginMutation n m else c.setCall n (.queued m)

/-- A call goes on. -/
def pollCaller (c : Cluster) (n : Nat) : Cluster :=
  match c.callers.get? n with
  | some (.fresh call) => c.beginCall n call
  | some .awaitingReady => c.readReport n
  | some .awaitingStop => c.readStop n
  | some (.queued m) => if c.lock.isHeldBy (.caller n) then c.beginMutation n m else c
  | some (.removing name (some reply)) =>
    match reply with
    | .ok () =>
      let c := { c with registry := c.registry.forget name }
      c.conclude n (.ok c.snapshot)
    | .error (.failed e) => c.conclude n (.error e)
    | .error .crashed => c.breakOff n
  | some (.replacing name config (some reply)) =>
    match reply with
    | .ok () =>
      let c := { c with registry := c.registry.restarting name config }
      if c.stopSignal then c.cleanUp n name .aborted
      else (c.setCall n (.adding name config none)).ask (.caller n) (.add config)
    | .error (.failed e) => c.conclude n (.error e)
    | .error .crashed => c.breakOff n
  | some (.adding name _ (some reply)) =>
    match reply with
    | .ok () => c.awaitRestart n name
    | .error (.failed e) => c.cleanUp n name e
    | .error .crashed => c.breakOff n
  | some (.awaitingNode name deadline reply) => c.awaitNode n name deadline reply
  | some (.awaitingAll name deadline reply) => c.awaitAll n name deadline reply
  | some (.cleaning name cause (some reply)) =>
    match reply with
    | .error .crashed => c.breakOff n
    | _ => { c with registry := c.registry.forget name }.conclude n (.error cause)
  | _ => c

/-- A call can go on. -/
def callerReady (c : Cluster) (n : Nat) : Bool :=
  let reported (deadline : Nat) (reply : Bool) := c.stopSignal || deadline ≤ c.now || reply
  match c.callers.get? n with
  | some (.fresh _) => true
  | some .awaitingReady => c.startDone
  | some .awaitingStop => c.latch.isFinished
  | some (.queued _) => c.lock.isHeldBy (.caller n)
  | some (.removing _ reply) => reply.isSome
  | some (.replacing _ _ reply) => reply.isSome
  | some (.adding _ _ reply) => reply.isSome
  | some (.awaitingNode _ deadline reply) => reported deadline reply.isSome
  | some (.awaitingAll _ deadline reply) => reported deadline reply.isSome
  | some (.cleaning _ _ reply) => reply.isSome
  | _ => false

/-- A caller goes away.  Whatever its call was about is dropped, and the lock with it. -/
def leave (c : Cluster) (n : Nat) : Cluster :=
  { c with lock := c.lock.leave (.caller n), callers := c.callers.erase n }

end Cluster
end ClusterControl
