import ClusterControl.Rehearsal.Callers
import ClusterControl.Rehearsal.Feeds
import ClusterControl.Rehearsal.Launcher
import ClusterControl.Server.Run
/-!
# Rehearsing a server

A control server on a clock, over a launcher that follows a script, with feeds of its clusters'
snapshots.
-/

namespace ClusterControl

/-- A server on a clock, whose calls give results of some type. -/
structure ServerShow (ρ : Type) where
  server : Server
  launcher : Launcher
  -- what to make of the result of each call
  jobs : Roster (Later ρ) := {}
  feeds : Feeds Snapshot := {}
  sources : Roster Nat := {}

/-- A task on a server. -/
inductive ServerTask
  | worker (g : Nat) (w : Worker)
  -- the task that sees the start of a cluster through
  | startup (g : Nat)
  | call (n : Nat)
  | feed (n : Nat)
deriving Repr, DecidableEq

namespace ServerShow

variable {ρ : Type}

/-- A worker of a cluster goes on, and its errands with it. -/
def attend (s : ServerShow ρ) (g : Nat) (w : Worker) (go : Server → Server) : ServerShow ρ :=
  let (server, launcher) := Launcher.attendIn g w (fun server : Server => server.cluster? g)
    (fun c server => server.onCluster g fun _ => c) go Launcher.stride (s.server, s.launcher)
  { s with server := server, launcher := launcher }

/-- The cluster that a feed samples. -/
def source? (s : ServerShow ρ) (n : Nat) : Option Cluster :=
  (s.sources.get? n).bind s.server.cluster?

/-- A task goes on. -/
def poll (t : ServerTask) (s : ServerShow ρ) : ServerShow ρ :=
  match t with
  | .worker g w => s.attend g w (·.onCluster g (·.poll w))
  | .startup g => { s with server := s.server.pollStartup g }
  | .call n =>
    match s.server.calls.get? n with
    | some (.fresh (.mutate _)) =>
      match s.server.slot with
      | some g => s.attend g (.caller (Server.inner n)) (·.pollCall n)
      | none => { s with server := s.server.pollCall n }
    | some (.mutating g) => s.attend g (.caller (Server.inner n)) (·.pollCall n)
    | _ => { s with server := s.server.pollCall n }
  | .feed n =>
    match s.source? n with
    | some c =>
      { s with feeds := s.feeds.onFeed n fun f => (f.poll c.now c.stopSignal c.snapshot).1 }
    | none => s

/-- A worker of a cluster can go on. -/
def workerReady (s : ServerShow ρ) (g : Nat) (w : Worker) : Bool :=
  (s.server.cluster? g).any fun c => s.launcher.ready g w c

/-- A task can go on. -/
def ready (s : ServerShow ρ) : ServerTask → Bool
  | .worker g w => s.workerReady g w
  | .startup g =>
    match s.server.tenancies[g]? with
    | some t =>
      match t.startup with
      | .spawned => true
      | .awaitingReady => t.cluster.ready (.caller 0)
      | .awaitingStop _ => t.cluster.ready (.caller 1)
      | .ended _ => false
    | none => false
  | .call n =>
    match s.server.calls.get? n with
    | some (.fresh _) => true
    | some (.starting g) =>
      match (s.server.tenancies[g]?).map Tenancy.startup with
      | some (.ended _) => true
      | _ => false
    | some (.stopping g) => s.workerReady g (.caller (Server.inner n))
    | some (.mutating g) => s.workerReady g (.caller (Server.inner n))
    | _ => false
  | .feed n =>
    match s.source? n, s.feeds.feeds.get? n with
    | some c, some f => f.ready c.now c.stopSignal
    | _, _ => false

/-- When a task wants to go on although nothing has happened. -/
def alarm (s : ServerShow ρ) : ServerTask → Option Nat
  | .worker g w => (s.server.cluster? g).bind fun c => s.launcher.alarm g w c
  | .call n =>
    match s.server.calls.get? n with
    | some (.mutating g) =>
      (s.server.cluster? g).bind fun c => s.launcher.alarm g (.caller (Server.inner n)) c
    | _ => none
  | .feed n => (s.feeds.feeds.get? n).bind Feed.alarm
  | .startup _ => none

/-- The tasks that there are. -/
def tasks (s : ServerShow ρ) : List ServerTask :=
  ((s.server.tenancies.zipIdx.map fun t =>
    [.worker t.2 .starter, .worker t.2 .keeper, .worker t.2 .stopper, .startup t.2]).flatten) ++
  s.server.calls.numbers.map .call ++ s.feeds.feeds.numbers.map .feed

/-- A call comes in. -/
def begin (n : Nat) (job : Later ρ) (s : ServerShow ρ) : ServerShow ρ :=
  let s := { s with jobs := s.jobs.set n job }
  match job with
  | .now _ => s
  | .after call _ => { s with server := s.server.call n call }

/-- The result of a call. -/
def result? (s : ServerShow ρ) (n : Nat) : Option ρ :=
  match s.jobs.get? n with
  | some (.now v) => some v
  | some (.after _ f) => (s.server.result? n).map f
  | none => none

/-- A caller goes away. -/
def leave (n : Nat) (s : ServerShow ρ) : ServerShow ρ :=
  let launcher := match s.server.calls.get? n with
    | some (.mutating g) => s.launcher.dismiss g (.caller (Server.inner n))
    | _ => s.launcher
  { s with server := s.server.leave n, launcher := launcher, jobs := s.jobs.erase n }

/-- A subscriber asks for a feed of the cluster in the slot. -/
def stream (name : String) (interval : Nat) (s : ServerShow ρ) : Outcome (ServerShow ρ) := do
  let g ← s.server.current
  let feed ← Feed.create interval .pending
  .ok { s with sources := s.sources.set s.feeds.next g, feeds := s.feeds.add name feed }

/-- The stage on which servers are rehearsed. -/
def stage : CallStage (ServerShow ρ) ServerTask (Later ρ) ρ where
  now s := s.server.now
  setNow t s := { s with server := s.server.elapse (t - s.server.now) }
  tasks := tasks
  ready := ready
  alarm := alarm
  poll := poll
  begin := begin
  task := .call
  result? := result?
  leave := leave

end ServerShow
end ClusterControl
