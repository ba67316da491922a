import ClusterControl.Server.Basic
/-!
# Runs of a server

Everything that can happen to a server, one event at a time: a call that comes in or goes on, a
caller that goes away, a task or a worker of one of its clusters that goes on, the answer to an
errand, and time that passes.
-/

namespace ClusterControl
namespace Server

/-- The task of a cluster, once the cluster is stopped because it did not come up. -/
def checkTeardown (s : Server) (g : Nat) (cause : Failure) : Server :=
  let s := s.onCluster g (·.poll (.caller 1))
  match (s.cluster? g).bind (·.result? 1) with
  | some _ => (s.release g).setStartup g (.ended (.error cause))
  | none => s.setStartup g (.awaitingStop cause)

/-- The task of a cluster, once the outcome of the start is there. -/
def checkReady (s : Server) (g : Nat) : Server :=
  let s := s.onCluster g (·.poll (.caller 0))
  match (s.cluster? g).bind (·.result? 0) with
  | some (.ok snapshot) => s.setStartup g (.ended (.ok snapshot))
  | some (.error e) => (s.onCluster g (·.call 1 .stop)).checkTeardown g e
  | none => s.setStartup g .awaitingReady

/-- The task that sees the start of a cluster through goes on. -/
def pollStartup (s : Server) (g : Nat) : Server :=
  match (s.tenancies[g]?).map Tenancy.startup with
  | some .spawned => (s.onCluster g (·.call 0 .waitReady)).checkReady g
  | some .awaitingReady => s.checkReady g
  | some (.awaitingStop cause) => s.checkTeardown g cause
  | _ => s

/-- A call that waits for a start, once that is seen through. -/
def checkStart (s : Server) (n g : Nat) : Server :=
  match (s.tenancies[g]?).map Tenancy.startup with
  | some (.ended result) => s.setCall n (.returned result)
  | _ => s.setCall n (.starting g)

/-- A call that stops a cluster goes on.  It empties the slot in any case, and keeps the last
snapshot if there is one. -/
def checkStop (s : Server) (n g : Nat) : Server :=
  let s := s.onCluster g (·.poll (.caller (inner n)))
  match (s.cluster? g).bind (·.result? (inner n)) with
  | some result =>
    let s := ((s.onCluster g (·.leave (inner n))).release g).setCall n (.returned result)
    match result with
    | .ok snapshot => { s with lastStopped := some snapshot }
    | .error _ => s
  | none => s.setCall n (.stopping g)

/-- A call that changes a node goes on. -/
def checkMutation (s : Server) (n g : Nat) : Server :=
  let s := s.onCluster g (·.poll (.caller (inner n)))
  match (s.cluster? g).bind (·.result? (inner n)) with
  | some result => (s.onCluster g (·.leave (inner n))).setCall n (.returned result)
  | none => s.setCall n (.mutating g)

/-- A call begins. -/
def beginCall (s : Server) (n : Nat) : ServerCall → Server
  | .start params =>
    match s.claim params with
    | .ok (g, s) => s.checkStart n g
    | .error e => s.setCall n (.returned (.error e))
  | .stop =>
    match s.slot with
    | some g => (s.onCluster g (·.call (inner n) .stop)).checkStop n g
    | none =>
      match s.lastStopped with
      | some snapshot => s.setCall n (.returned (.ok snapshot))
      | none => s.setCall n (.returned (.error noCluster))
  | .mutate m =>
    match s.slot with
    | some g => (s.onCluster g (·.call (inner n) (.mutate m))).checkMutation n g
    | none => s.setCall n (.returned (.error noCluster))

/-- A call goes on. -/
def pollCall (s : Server) (n : Nat) : Server :=
  match s.calls.get? n with
  | some (.fresh call) => s.beginCall n call
  | some (.starting g) => s.checkStart n g
  | some (.stopping g) => s.checkStop n g
  | some (.mutating g) => s.checkMutation n g
  | _ => s

/-- A caller goes away, and with it whatever its call was about. -/
def leave (s : Server) (n : Nat) : Server :=
  let s := match s.calls.get? n with
    | some (.stopping g) => s.onCluster g (·.leave (inner n))
    | some (.mutating g) => s.onCluster g (·.leave (inner n))
    | _ => s
  { s with calls := s.calls.erase n }

/-- A call comes in under a number that is free. -/
def call (s : Server) (n : Nat) (call : ServerCall) : Server :=
  match s.calls.get? n with
  | some _ => s
  | none => s.setCall n (.fresh call)

/-- The result of a call, once it is over. -/
def result? (s : Server) (n : Nat) : Option (Outcome Snapshot) :=
  match s.calls.get? n with
  | some (.returned result) => some result
  | _ => none

/-- Time passes, for the server and for all its clusters. -/
def elapse (s : Server) (ms : Nat) : Server :=
  { s with
    now := s.now + ms
    tenancies := s.tenancies.map fun t => { t with cluster := t.cluster.step (.elapse ms) } }

/-- What can happen to a server. -/
inductive Event
  | call (n : Nat) (call : ServerCall)
  | leave (n : Nat)
  | pollCall (n : Nat)
  -- the task that sees the start of a cluster through goes on
  | pollStartup (g : Nat)
  | pollWorker (g : Nat) (w : Worker)
  -- the answer to an errand of a cluster is there
  | answer (g : Nat) (w : Worker) (reply : Reply)
  | elapse (ms : Nat)
deriving Repr, DecidableEq

/-- One event. -/
def step (s : Server) : Event → Server
  | .call n call => s.call n call
  | .leave n => s.leave n
  | .pollCall n => s.pollCall n
  | .pollStartup g => s.pollStartup g
  | .pollWorker g w => s.onCluster g (·.poll w)
  | .answer g w reply => s.onCluster g (·.answer w reply)
  | .elapse ms => s.elapse ms

/-- Many events, one after the other. -/
def run (s : Server) (events : List Event) : Server :=
  events.foldl step s

end Server

/-- An answer that is there at once, or that a call gives in the end. -/
inductive Later (α : Type)
  | now (v : α)
  -- it follows from the result of a call
  | after (call : ServerCall) (f : Outcome Snapshot → α)

namespace Later

/-- The answer with a function applied to it. -/
def map {α β : Type} (f : α → β) : Later α → Later β
  | now v => now (f v)
  | after call g => after call (f ∘ g)

instance : Functor Later := ⟨Later.map, fun v => Later.map fun _ => v⟩

instance : Pure Later := ⟨Later.now⟩

end Later

/-- The operations of a server at this moment. -/
def Server.api (s : Server) : Api Later where
  ping := .now s.pid
  start params := .after (.start params) id
  health := .now s.health
  uris := .now s.uris
  status := .now s.health
  removeNode name := .after (.mutate (.remove name)) id
  restartNode name params := .after (.mutate (.restart name params)) id
  stop := .after .stop id

end ClusterControl
