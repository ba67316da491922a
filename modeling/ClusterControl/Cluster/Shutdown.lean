import ClusterControl.Cluster.Basic
/-!
# Stopping a cluster

A stop tells everybody first, then waits until no node is being changed any more, and shuts the
nodes down.  A launch that is still under way may bring up nodes after that, so the stop waits for
it to be over and then looks once more whether there are nodes to be shut down.
-/

namespace ClusterControl
namespace Cluster

/-- The stop is over.  Failures count only if the cluster was healthy when the stop began. -/
def stopEnded (c : Cluster) (prior : Lifecycle) (failures : List String) : Cluster :=
  let c := { c with registry := c.registry.advance .stopped }
  let outcome : StopOutcome :=
    if failures.isEmpty || prior ≠ .healthy then .ok c.snapshot
    else .error (String.intercalate "; " failures)
  { c with
    stopper := .ended
    lock := c.lock.release
    latch := c.latch.finish (some outcome) }

/-- Shuts down nodes that the launch brought up after the first look. -/
def shutLast (c : Cluster) (prior : Lifecycle) (failures : List String) : Cluster :=
  if c.handle then
    { c with handle := false, stopper := .shutting prior true failures none }.ask .stopper .shutdown
  else c.stopEnded prior failures

/-- Sees to it that the launch is over.  If there never was one, whoever waits for it is told. -/
def awaitStart (c : Cluster) (prior : Lifecycle) (failures : List String) : Cluster :=
  if prior = .created then
    { c.leaveReport .aborted with startDone := true }.shutLast prior failures
  else if c.startDone then c.shutLast prior failures
  else { c with stopper := .awaitingStart prior failures }

/-- Shuts down the nodes, once no node is being changed. -/
def shutFirst (c : Cluster) (prior : Lifecycle) : Cluster :=
  if c.handle then
    { c with handle := false, stopper := .shutting prior false [] none }.ask .stopper .shutdown
  else c.awaitStart prior []

/-- Goes on after nodes were shut down. -/
def shutDown (c : Cluster) (prior : Lifecycle) (last : Bool) (failures : List String) : Cluster :=
  if last then c.stopEnded prior failures else c.awaitStart prior failures

/-- The stop goes on. -/
def pollStopper (c : Cluster) : Cluster :=
  match c.stopper with
  | .unborn =>
    if c.latch.action = .spawned then
      let prior := c.registry.state
      let c := { c with
        latch := c.latch.begin
        registry := c.registry.advance .stopping
        stopSignal := true
        lock := c.lock.request .stopper }
      if c.lock.isHeldBy .stopper then c.shutFirst prior else { c with stopper := .queued prior }
    else c
  | .queued prior => if c.lock.isHeldBy .stopper then c.shutFirst prior else c
  | .shutting prior last failures (some reply) =>
    match reply with
    | .ok () => c.shutDown prior last failures
    | .error (.failed e) => c.shutDown prior last (failures ++ [e.message])
    | .error .crashed =>
      { c with stopper := .crashed, lock := c.lock.release, latch := c.latch.finish none }
  | .awaitingStart prior failures => if c.startDone then c.shutLast prior failures else c
  | _ => c

/-- The stop can go on. -/
def stopperReady (c : Cluster) : Bool :=
  match c.stopper with
  | .unborn => c.latch.action = .spawned
  | .queued _ => c.lock.isHeldBy .stopper
  | .shutting _ _ _ reply => reply.isSome
  | .awaitingStart _ _ => c.startDone
  | _ => false

end Cluster
end ClusterControl
