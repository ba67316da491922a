import ClusterControl.Node
import ClusterControl.Nodes.ExitStatus
import ClusterControl.Nodes.Probe
import ClusterControl.Table
/-!
# Waiting for nodes

Each node is looked after in turns until it reports healthy, and is asked for its identifier then.
A turn begins with a look at the node's process, which must be there; after a probe that finds the
node not healthy there is a rest.  Several nodes are waited for together; the first one that fails
ends the whole wait.
-/

namespace ClusterControl

/-- What a look at a node's process finds. -/
inductive ProcessSight
  | running
  | ended (status : ExitStatus)
  | stopped
  -- nothing, because the operating system does not tell
  | hidden (cause : IoError)
deriving Repr, DecidableEq

/-- Why a node cannot become healthy, by what a look at its process finds. -/
def ProcessSight.fault? (name : String) : ProcessSight → Option Failure
  | running => none
  | ended status => some (.launch ("node " ++ name ++ " exited: " ++ status.text))
  | stopped => some (.launch ("node " ++ name ++ " was stopped"))
  | hidden cause => some (.io cause)

/-- How far the wait for a node is. -/
inductive WaitPhase
  -- its process is looked at, from this time on
  | looking (due : Nat)
  | probing
  | identifying
  | ready
  | failed (cause : Failure)
deriving Repr, DecidableEq

/-- What happens to a node that is waited for. -/
inductive NodeEvent
  | look (sight : ProcessSight)
  -- it answers the question whether it is healthy, or does not
  | health (reply : HttpReply)
  -- it answers the question for its identifier, or does not
  | identity (reply : HttpReply)
deriving Repr, DecidableEq

/-- A wait for one node, and what the node's handle tells meanwhile. -/
structure NodeWait where
  node : NodeReport
  phase : WaitPhase := .looking 0
deriving Repr, DecidableEq

namespace NodeWait

/-- One event at a time; what comes out of turn does not count.  After a probe that finds the node
not healthy the next turn begins with a look at the process, when the interval has passed. -/
def step (interval now : Nat) (w : NodeWait) : NodeEvent → NodeWait
  | .look sight =>
    match w.phase with
    | .looking due =>
      if now < due then w
      else
        match sight.fault? w.node.name with
        | some cause => { w with phase := .failed cause }
        | none => { w with phase := .probing }
    | _ => w
  | .health reply =>
    match w.phase with
    | .probing =>
      { w with phase := if Probe.isHealthy reply then .identifying else .looking (now + interval) }
    | _ => w
  | .identity reply =>
    match w.phase with
    | .identifying =>
      match Probe.nodeId w.node.uri reply with
      | .ok id => { node := { w.node with id := id }, phase := .ready }
      | .error cause => { w with phase := .failed cause }
    | _ => w

/-- Many events, each with its time, one after the other. -/
def run (interval : Nat) (w : NodeWait) (events : List (Nat × NodeEvent)) : NodeWait :=
  events.foldl (fun w e => w.step interval e.1 e.2) w

/-- What the wait gives, once it is over. -/
def result? (w : NodeWait) : Option (Outcome NodeReport) :=
  match w.phase with
  | .ready => some (.ok w.node)
  | .failed cause => some (.error cause)
  | _ => none

/-- A wait for the node with a name. -/
def create (nodes : Table NodeReport) (name : String) : Outcome NodeWait :=
  match nodes.get? name with
  | none => .error (.notFound name)
  | some node => .ok { node }

end NodeWait

/-- The nodes that were spawned, under their names. -/
def NodeReport.table (nodes : List NodeReport) : Table NodeReport :=
  .ofList (nodes.map fun node => (node.name, node))

/-! ## Several nodes at once -/

/-- A way to put together what has come of several tasks so far. -/
abbrev Joining (α : Type) := List (Option (Outcome α)) → Option (Outcome (List α))

/-- Tasks joined: a failure counts at once, and what the tasks give counts when all have given
it. -/
def joinAll {α : Type} : Joining α
  | [] => some (.ok [])
  | some (.error cause) :: _ => some (.error cause)
  | some (.ok a) :: rest => (joinAll rest).map fun r => r.map fun all => a :: all
  | none :: rest =>
    match joinAll rest with
    | some (.error cause) => some (.error cause)
    | _ => none

/-- A wait for several nodes, and what it has come to: the reports of all nodes, or a failure. -/
structure CrewWait where
  nodes : Table NodeWait
  result? : Option (Outcome (Table NodeReport)) := none

namespace CrewWait

/-- What the waits for the single nodes come to together. -/
def joined (join : Joining NodeReport) (nodes : Table NodeWait) :
    Option (Outcome (Table NodeReport)) :=
  (join (nodes.values.map NodeWait.result?)).map fun r => r.map NodeReport.table

/-- A wait for nodes. -/
def create (join : Joining NodeReport) (nodes : Table NodeReport) : CrewWait :=
  let nodes := nodes.map fun node => ({ node } : NodeWait)
  { nodes, result? := joined join nodes }

/-- One event at a node.  Once the wait is over, nothing counts any more. -/
def step (join : Joining NodeReport) (interval now : Nat) (w : CrewWait) (name : String)
    (e : NodeEvent) : CrewWait :=
  match w.result?, w.nodes.get? name with
  | none, some node =>
    let nodes := w.nodes.insert name (node.step interval now e)
    { nodes, result? := joined join nodes }
  | _, _ => w

/-- Many events, each with its time and its node, one after the other. -/
def run (join : Joining NodeReport) (interval : Nat) (w : CrewWait)
    (events : List (Nat × String × NodeEvent)) : CrewWait :=
  events.foldl (fun w e => w.step join interval e.1 e.2.1 e.2.2) w

end CrewWait
end ClusterControl
