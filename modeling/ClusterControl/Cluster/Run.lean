import ClusterControl.Cluster.Calls
import ClusterControl.Cluster.Shutdown
import ClusterControl.Cluster.Startup
/-!
# Runs of a cluster

Everything that can happen to a cluster, one event at a time: a start, a call that comes in, a
worker that goes on, the answer to an errand, a caller that goes away, and time that passes.
-/

namespace ClusterControl
namespace Cluster

/-- A worker goes on as far as it can. -/
def poll (c : Cluster) : Worker → Cluster
  | .starter => c.pollStarter
  | .keeper => { c with latch := c.latch.keep }
  | .stopper => c.pollStopper
  | .caller n => c.pollCaller n

/-- A worker can go on. -/
def ready (c : Cluster) : Worker → Bool
  | .starter => c.starterReady
  | .keeper => c.latch.keeperReady
  | .stopper => c.stopperReady
  | .caller n => c.callerReady n

/-- The workers that there are. -/
def workers (c : Cluster) : List Worker :=
  .starter :: .keeper :: .stopper :: c.callers.numbers.map .caller

/-- The errand of a worker that is in the air. -/
def errand? (c : Cluster) : Worker → Option Errand
  | .starter =>
    match c.starter with
    | .launching none => some (.launch c.registry.orderedConfigs)
    | .waiting _ none => some .waitHealthy
    | _ => none
  | .keeper => none
  | .stopper =>
    match c.stopper with
    | .shutting _ _ _ none => some .shutdown
    | _ => none
  | .caller n =>
    match c.callers.get? n with
    | some (.removing name none) => some (.remove name)
    | some (.replacing name _ none) => some (.remove name)
    | some (.adding _ config none) => some (.add config)
    | some (.awaitingNode name _ none) => some (.waitNode name)
    | some (.awaitingAll _ _ none) => some .waitHealthy
    | some (.cleaning name _ none) => some (.remove name)
    | _ => none

/-- When a worker wants to go on although nothing has happened. -/
def alarm (c : Cluster) : Worker → Option Nat
  | .starter =>
    match c.starter with
    | .waiting deadline _ => some deadline
    | _ => none
  | .caller n =>
    match c.callers.get? n with
    | some (.awaitingNode _ deadline _) => some deadline
    | some (.awaitingAll _ deadline _) => some deadline
    | _ => none
  | _ => none

/-- The answer to a worker's errand is there. -/
def receive (c : Cluster) (w : Worker) (reply : Reply) : Cluster :=
  match w with
  | .starter =>
    match c.starter with
    | .launching none => { c with starter := .launching reply.toDone }
    | .waiting deadline none => { c with starter := .waiting deadline reply.toNodes }
    | _ => c
  | .keeper => c
  | .stopper =>
    match c.stopper with
    | .shutting prior last failures none =>
      { c with stopper := .shutting prior last failures reply.toDone }
    | _ => c
  | .caller n =>
    match c.callers.get? n with
    | some (.removing name none) => c.setCall n (.removing name reply.toDone)
    | some (.replacing name config none) => c.setCall n (.replacing name config reply.toDone)
    | some (.adding name config none) => c.setCall n (.adding name config reply.toDone)
    | some (.awaitingNode name deadline none) =>
      c.setCall n (.awaitingNode name deadline reply.toNode)
    | some (.awaitingAll name deadline none) =>
      c.setCall n (.awaitingAll name deadline reply.toNodes)
    | some (.cleaning name cause none) => c.setCall n (.cleaning name cause reply.toDone)
    | _ => c

/-- The answer to a worker's errand is there, and is noted.  What is no answer to it is ignored. -/
def answer (c : Cluster) (w : Worker) (reply : Reply) : Cluster :=
  match c.errand? w with
  | some errand =>
    if reply.answers errand then
      { c.receive w reply with journal := .answered w errand reply :: c.journal }
    else c
  | none => c

/-- A call comes in under a number that is free. -/
def call (c : Cluster) (n : Nat) (call : ClusterCall) : Cluster :=
  match c.callers.get? n with
  | some _ => c
  | none => c.setCall n (.fresh call)

/-- The result of a call, once it is over. -/
def result? (c : Cluster) (n : Nat) : Option (Outcome Snapshot) :=
  match c.callers.get? n with
  | some (.returned result) => some result
  | _ => none

/-- What can happen to a cluster. -/
inductive Event
  | start
  | call (n : Nat) (call : ClusterCall)
  | leave (n : Nat)
  | poll (w : Worker)
  | answer (w : Worker) (reply : Reply)
  | elapse (ms : Nat)
deriving Repr, DecidableEq

/-- One event. -/
def step (c : Cluster) : Event → Cluster
  | .start => c.start
  | .call n call => c.call n call
  | .leave n => c.leave n
  | .poll w => c.poll w
  | .answer w reply => c.answer w reply
  | .elapse ms => { c with now := c.now + ms }

/-- Many events, one after the other. -/
def run (c : Cluster) (events : List Event) : Cluster :=
  events.foldl step c

end Cluster
end ClusterControl
