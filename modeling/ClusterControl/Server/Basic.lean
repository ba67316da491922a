import ClusterControl.Cluster.Run
import ClusterControl.Server.Api
/-!
# Control servers

A control server has at most one cluster at a time, in its slot.  A start puts a new cluster into
the empty slot and a task beside it that waits for the outcome; if the cluster does not come up, that
task stops it and empties the slot again, whether or not anybody still waits.  A stop stops the
cluster in the slot, empties the slot, and keeps the last snapshot for those who ask later.  The
clusters of the past stay on record, under the numbers in which they came.
-/

namespace ClusterControl

/-- How far the task is that sees a start through. -/
inductive StartupPhase
  | spawned
  -- it waits for the outcome of the start
  | awaitingReady
  -- it waits for the cluster that did not come up to be stopped
  | awaitingStop (cause : Failure)
  | ended (result : Outcome Snapshot)
deriving Repr, DecidableEq

/-- A call that a server takes time for. -/
inductive ServerCall
  | start (params : StartParams)
  | stop
  | mutate (m : Mutation)
deriving Repr, DecidableEq

/-- How far a call is. -/
inductive ServerPhase
  | fresh (call : ServerCall)
  -- it waits for the start of a cluster to be seen through
  | starting (cluster : Nat)
  -- it waits for a cluster to be stopped
  | stopping (cluster : Nat)
  -- it waits for a node of a cluster to be changed
  | mutating (cluster : Nat)
  | returned (result : Outcome Snapshot)
deriving Repr, DecidableEq

/-- A cluster of a server and the task that sees its start through. -/
structure Tenancy where
  cluster : Cluster
  startup : StartupPhase := .spawned
deriving Repr, DecidableEq

/-- A control server. -/
structure Server where
  pid : UInt32
  options : ClusterOptions
  -- why the clusters' directory cannot be made, if it cannot
  obstacle : Option IoError := none
  now : Nat := 0
  tenancies : List Tenancy := []
  slot : Option Nat := none
  -- the last snapshot of the cluster that was stopped last
  lastStopped : Option Snapshot := none
  calls : Roster ServerPhase := {}
deriving Repr, DecidableEq

namespace Server

/-- There is a cluster. -/
def hasCluster (s : Server) : Bool :=
  s.slot.isSome

/-- A cluster by its number. -/
def cluster? (s : Server) (g : Nat) : Option Cluster :=
  (s.tenancies[g]?).map Tenancy.cluster

/-- Changes a cluster. -/
def onCluster (s : Server) (g : Nat) (f : Cluster → Cluster) : Server :=
  { s with tenancies := s.tenancies.modify g fun t => { t with cluster := f t.cluster } }

/-- Puts the task of a cluster into a phase. -/
def setStartup (s : Server) (g : Nat) (phase : StartupPhase) : Server :=
  { s with tenancies := s.tenancies.modify g fun t => { t with startup := phase } }

/-- Puts a call into a phase. -/
def setCall (s : Server) (n : Nat) (phase : ServerPhase) : Server :=
  { s with calls := s.calls.set n phase }

/-- The failure of a call that needs a cluster when there is none. -/
def noCluster : Failure :=
  .unavailable "no cluster is running"

/-- The number of the cluster in the slot. -/
def current (s : Server) : Outcome Nat :=
  match s.slot with
  | some g => .ok g
  | none => .error noCluster

/-- The cluster in the slot at this moment. -/
def health (s : Server) : Outcome Snapshot :=
  match s.slot.bind s.cluster? with
  | some c => .ok c.snapshot
  | none => .error noCluster

/-- The URIs of the nodes of the cluster in the slot. -/
def uris (s : Server) : Outcome (List String) :=
  s.health.map Snapshot.uris

/-- Empties the slot, if this cluster is in it. -/
def release (s : Server) (g : Nat) : Server :=
  if s.slot = some g then { s with slot := none } else s

/-- Puts a new cluster into the slot and starts it. -/
def claim (s : Server) (params : StartParams) : Outcome (Nat × Server) :=
  if s.slot.isSome then .error .alreadyExists
  else do
    let c ← Cluster.plan s.options params s.pid s.obstacle
    let g := s.tenancies.length
    .ok (g, { s with
      tenancies := s.tenancies ++ [{ cluster := { c with now := s.now }.start }]
      slot := some g })

/-- The number of a server's call among the calls on its cluster; the first two are for the task
that sees the start through. -/
def inner (n : Nat) : Nat := n + 2

end Server
end ClusterControl
