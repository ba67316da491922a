import ClusterControl.Rehearsal.Callers
import ClusterControl.Rehearsal.Feeds
import ClusterControl.Rehearsal.Launcher
/-!
# Rehearsing a cluster

One cluster on a clock, over a launcher that follows a script, with feeds of its snapshots.
-/

namespace ClusterControl

/-- A cluster on a clock. -/
structure ClusterShow where
  cluster : Cluster
  launcher : Launcher
  feeds : Feeds Snapshot := {}

/-- A task on a cluster. -/
inductive ClusterTask
  | worker (w : Worker)
  | feed (n : Nat)
deriving Repr, DecidableEq

namespace ClusterShow

/-- A task goes on. -/
def poll : ClusterTask → ClusterShow → ClusterShow
  | .worker w, s =>
    let (cluster, launcher) := Launcher.attend 0 w (s.cluster, s.launcher)
    { s with cluster := cluster, launcher := launcher }
  | .feed n, s =>
    { s with feeds := s.feeds.onFeed n fun f =>
        (f.poll s.cluster.now s.cluster.stopSignal s.cluster.snapshot).1 }

/-- A task can go on. -/
def ready (s : ClusterShow) : ClusterTask → Bool
  | .worker w => s.launcher.ready 0 w s.cluster
  | .feed n => (s.feeds.feeds.get? n).any fun f => f.ready s.cluster.now s.cluster.stopSignal

/-- When a task wants to go on although nothing has happened. -/
def alarm (s : ClusterShow) : ClusterTask → Option Nat
  | .worker w => s.launcher.alarm 0 w s.cluster
  | .feed n => (s.feeds.feeds.get? n).bind Feed.alarm

/-- The stage on which clusters are rehearsed. -/
def stage : CallStage ClusterShow ClusterTask ClusterCall (Outcome Snapshot) where
  now s := s.cluster.now
  setNow t s := { s with cluster := s.cluster.step (.elapse (t - s.cluster.now)) }
  tasks s := s.cluster.workers.map .worker ++ s.feeds.feeds.numbers.map .feed
  ready := ready
  alarm := alarm
  poll := poll
  begin n call s := { s with cluster := s.cluster.call n call }
  task n := .worker (.caller n)
  result? s n := s.cluster.result? n
  leave n s :=
    { s with cluster := s.cluster.leave n, launcher := s.launcher.dismiss 0 (.caller n) }

end ClusterShow
end ClusterControl
