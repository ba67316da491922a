import ClusterControl.Failure
import ClusterControl.Node
import ClusterControl.Table
/-!
# Errands

What a cluster asks of the launcher that runs its nodes, and what comes back.  An errand takes time;
until its answer is there it is in the air.
-/

namespace ClusterControl

/-- What is asked of a launcher. -/
inductive Errand
  | launch (configs : List NodeConfig)
  | waitHealthy
  | waitNode (name : String)
  | remove (name : String)
  | add (config : NodeConfig)
  | shutdown
deriving Repr, DecidableEq

/-- Why an errand came to nothing. -/
inductive Mishap
  | failed (cause : Failure)
  | crashed
deriving Repr, DecidableEq

/-- The answer to an errand, once it is there. -/
abbrev Pending (α : Type) := Option (Except Mishap α)

/-- What comes back from an errand. -/
inductive Reply
  | done
  | nodes (reports : Table NodeReport)
  | node (report : NodeReport)
  | mishap (why : Mishap)
deriving Repr, DecidableEq

namespace Reply

/-- The reply to an errand that is only to be done. -/
def toDone : Reply → Pending Unit
  | done => some (.ok ())
  | mishap why => some (.error why)
  | _ => none

/-- The reply to an errand that asks for all nodes. -/
def toNodes : Reply → Pending (Table NodeReport)
  | nodes reports => some (.ok reports)
  | mishap why => some (.error why)
  | _ => none

/-- The reply to an errand that asks for one node. -/
def toNode : Reply → Pending NodeReport
  | node report => some (.ok report)
  | mishap why => some (.error why)
  | _ => none

/-- The reply is one that this errand can come back with. -/
def answers : Reply → Errand → Bool
  | mishap _, _ => true
  | done, .launch _ => true
  | done, .remove _ => true
  | done, .add _ => true
  | done, .shutdown => true
  | nodes _, .waitHealthy => true
  | node _, .waitNode _ => true
  | _, _ => false

end Reply

/-- The endpoint that a launcher's report gives.  A node without a URI or without an identifier has
none. -/
def NodeReport.endpoint (r : NodeReport) : Outcome Endpoint :=
  if r.uri.isEmpty || r.id.isEmpty then
    .error (.launch ("node " ++ r.name ++ " reported an incomplete endpoint"))
  else .ok ⟨r.uri, r.id⟩

/-- The failure of a cluster among whose healthy nodes one is missing. -/
def Failure.missingNode (name : String) : Failure :=
  .launch ("node " ++ name ++ " missing from healthy cluster")

end ClusterControl
