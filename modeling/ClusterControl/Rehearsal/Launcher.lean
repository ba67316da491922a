import ClusterControl.Cluster.Run
/-!
# Launchers for rehearsals

A launcher without processes, whose nodes answer as a script says.  A steady script gives every
errand of a kind the same delay and outcome; a cued one plays one cue after the other for the
errands of a kind, and the last one for ever.  The time that an errand takes passes on the clock of
the run.
-/

namespace ClusterControl

/-- The kinds of errands. -/
inductive ErrandKind
  | launch
  | waitHealthy
  | waitNode
  | remove
  | add
  | shutdown
deriving Repr, DecidableEq

/-- The word for a kind. -/
def ErrandKind.word : ErrandKind → String
  | launch => "launch"
  | waitHealthy => "wait_healthy"
  | waitNode => "wait_node"
  | remove => "remove"
  | add => "add"
  | shutdown => "shutdown"

/-- The kind of an errand. -/
def Errand.kind : Errand → ErrandKind
  | launch _ => .launch
  | waitHealthy => .waitHealthy
  | waitNode _ => .waitNode
  | remove _ => .remove
  | add _ => .add
  | shutdown => .shutdown

/-- What an errand is about, in a log. -/
def Errand.detail : Errand → String
  | launch configs => String.intercalate "," (configs.map NodeConfig.name)
  | waitNode name => name
  | remove name => name
  | add config => config.name ++ " " ++ config.execPath.text
  | _ => ""

/-- A script by which all errands of a kind go the same way. -/
structure SteadyScript where
  healthyAfter : Nat := 0
  nodeHealthyAfter : Nat := 0
  neverHealthy : Bool := false
  blankIds : Bool := false
  launchError : Option String := none
  shutdownError : Option String := none
  shutdownDelay : Nat := 0
  removeDelay : Nat := 0
deriving Repr, DecidableEq, Inhabited

/-- How one errand goes. -/
structure Cue where
  never : Bool := false
  delay : Nat := 0
  breaks : Bool := false
  error : Option Failure := none
  blankUri : List String := []
  blankId : List String := []
  omitted : List String := []
deriving Repr, DecidableEq, Inhabited

/-- A script. -/
inductive LauncherScript
  -- all errands of a kind go the same way
  | steady (script : SteadyScript)
  -- the errands of a kind go as their cues say
  | cued (cues : ErrandKind → List Cue)

/-- An errand in the air. -/
structure Flight where
  cluster : Nat
  worker : Worker
  errand : Errand
  due : Option Nat
  cue : Cue
deriving Repr, DecidableEq

/-- A node that runs: how, and the how manieth of its name it is. -/
structure RunningNode where
  config : NodeConfig
  -- the number of nodes that had been added when it was
  incarnation : Nat
deriving Repr, DecidableEq

/-- A launcher with the nodes that it runs. -/
structure Launcher where
  script : LauncherScript
  begun : List ErrandKind := []
  -- when each errand began, its kind and what it was about, newest first
  log : List (Nat × ErrandKind × String) := []
  launched : List String := []
  added : Roster Nat := {}
  nodes : Roster (Table RunningNode) := {}
  flights : List Flight := []

namespace Launcher

/-- The errands of a kind so far. -/
def count (l : Launcher) (kind : ErrandKind) : Nat :=
  l.begun.countP (· = kind)

/-- The cue for the errand of a kind that comes now. -/
def cue (l : Launcher) (kind : ErrandKind) : Cue :=
  match l.script with
  | .steady _ => {}
  | .cued cues =>
    let list := cues kind
    (list[l.count kind]?).getD (list.getLast?.getD {})

/-- When an errand that begins now is answered. -/
def dueOf (l : Launcher) (errand : Errand) (cue : Cue) (now : Nat) : Option Nat :=
  match l.script with
  | .steady s =>
    match errand with
    | .waitHealthy => if s.neverHealthy then none else some (now + s.healthyAfter)
    | .waitNode _ => if s.neverHealthy then none else some (now + s.nodeHealthyAfter)
    | .remove _ => some (now + s.removeDelay)
    | .shutdown => some (now + s.shutdownDelay)
    | _ => some now
  | .cued _ => if cue.never then none else some (now + cue.delay)

/-- An errand begins. -/
def begin (l : Launcher) (cluster : Nat) (worker : Worker) (errand : Errand) (now : Nat) :
    Launcher :=
  let kind := errand.kind
  let cue := l.cue kind
  { l with
    begun := kind :: l.begun
    log := (now, kind, errand.detail) :: l.log
    flights := l.flights ++ [⟨cluster, worker, errand, l.dueOf errand cue now, cue⟩] }

/-- The errand of a worker that is in the air. -/
def flight? (l : Launcher) (cluster : Nat) (worker : Worker) : Option Flight :=
  l.flights.find? fun f => f.cluster = cluster && f.worker = worker

/-- Forgets the errand of a worker. -/
def dismiss (l : Launcher) (cluster : Nat) (worker : Worker) : Launcher :=
  { l with flights := l.flights.filter fun f => !(f.cluster = cluster && f.worker = worker) }

/-- The nodes of a cluster that run. -/
def nodesOf (l : Launcher) (cluster : Nat) : Table RunningNode :=
  (l.nodes.get? cluster).getD {}

/-- The report of a node, or nothing if it is left out. -/
def reportOf (l : Launcher) (cue : Cue) (node : RunningNode) : Option NodeReport :=
  let name := node.config.name
  let port := toString node.config.httpPort
  let number := toString node.incarnation
  match l.script with
  | .steady s => some ⟨name, "http://127.0.0.1:" ++ port,
      if s.blankIds then "" else "NodeID-" ++ name ++ "-" ++ number⟩
  | .cued _ =>
    if cue.omitted.contains name then none
    else some ⟨name, if cue.blankUri.contains name then "" else "http://fake:" ++ port,
      if cue.blankId.contains name then "" else "ID-" ++ name ++ "-" ++ number⟩

/-- Why an errand fails, if its script says so. -/
def mishap? (l : Launcher) (f : Flight) : Option Mishap :=
  match l.script with
  | .steady s =>
    match f.errand with
    | .launch _ => s.launchError.map fun message => .failed (.launch message)
    | .shutdown => s.shutdownError.map fun message => .failed (.internal message)
    | _ => none
  | .cued _ =>
    if f.cue.breaks then some .crashed else f.cue.error.map .failed

/-- The number of a node that is added to a cluster. -/
def nextIncarnation (l : Launcher) (cluster : Nat) : Nat :=
  match l.script with
  | .steady _ => l.count .add
  | .cued _ => (l.added.get? cluster).getD 0 + 1

/-- An errand is carried out. -/
def carryOut (l : Launcher) (f : Flight) : Reply × Launcher :=
  match l.mishap? f with
  | some why => (.mishap why, l)
  | none =>
    let nodes := l.nodesOf f.cluster
    match f.errand with
    | .launch configs =>
      (.done, { l with
        launched := configs.map NodeConfig.name
        nodes := l.nodes.set f.cluster (.ofList (configs.map fun c => (c.name, ⟨c, 0⟩))) })
    | .waitHealthy =>
      (.nodes ⟨nodes.entries.filterMap fun e => (l.reportOf f.cue e.2).map fun r => (e.1, r)⟩, l)
    | .waitNode name =>
      match (nodes.get? name).bind (l.reportOf f.cue) with
      | some report => (.node report, l)
      | none => (.mishap (.failed (.notFound name)), l)
    | .remove name =>
      if nodes.contains name then
        (.done, { l with nodes := l.nodes.set f.cluster (nodes.erase name) })
      else (.mishap (.failed (.notFound name)), l)
    | .add config =>
      let number := l.nextIncarnation f.cluster
      (.done, { l with
        added := l.added.set f.cluster number
        nodes := l.nodes.set f.cluster (nodes.insert config.name ⟨config, number⟩) })
    | .shutdown => (.done, l)

/-- Answers a worker's errand, if its time has come. -/
def deliver (l : Launcher) (cluster : Nat) (w : Worker) (c : Cluster) : Cluster × Launcher :=
  match l.flight? cluster w with
  | some f =>
    if f.due.any (· ≤ c.now) then
      let (reply, l) := l.carryOut f
      (c.answer w reply, l.dismiss cluster w)
    else (c, l)
  | none => (c, l)

/-- Sends out the errand that a worker has in the air, unless it is on its way, and recalls one that
the worker has given up.  Tells whether one was sent out. -/
def dispatch (l : Launcher) (cluster : Nat) (w : Worker) (c : Cluster) : Bool × Launcher :=
  match c.errand? w, l.flight? cluster w with
  | some errand, some f =>
    if f.errand = errand then (false, l)
    else (true, (l.dismiss cluster w).begin cluster w errand c.now)
  | some errand, none => (true, l.begin cluster w errand c.now)
  | none, some _ => (false, l.dismiss cluster w)
  | none, none => (false, l)

/-- The errands that a worker sends out in a row at most. -/
def stride : Nat := 8

/-- A worker of a cluster goes on, as far as it can without time passing.  The cluster is part of a
larger state, in which `go` is how the worker goes on. -/
def attendIn {σ : Type} (cluster : Nat) (w : Worker) (get : σ → Option Cluster)
    (put : Cluster → σ → σ) (go : σ → σ) : Nat → σ × Launcher → σ × Launcher
  | 0, s => s
  | fuel + 1, (s, l) =>
    let (s, l) := match get s with
      | some c =>
        let (c, l) := l.deliver cluster w c
        (put c s, l)
      | none => (s, l)
    let s := go s
    match get s with
    | some c =>
      let (sent, l) := l.dispatch cluster w c
      if sent then attendIn cluster w get put go fuel (s, l) else (s, l)
    | none => (s, l)

/-- A worker of a cluster goes on, as far as it can without time passing. -/
def attend (cluster : Nat) (w : Worker) (s : Cluster × Launcher) : Cluster × Launcher :=
  attendIn cluster w some (fun c _ => c) (·.poll w) stride s

/-- A worker can go on. -/
def ready (l : Launcher) (cluster : Nat) (w : Worker) (c : Cluster) : Bool :=
  c.ready w || (l.flight? cluster w).any fun f => f.due.any (· ≤ c.now)

/-- When a worker wants to go on although nothing has happened. -/
def alarm (l : Launcher) (cluster : Nat) (w : Worker) (c : Cluster) : Option Nat :=
  match c.alarm w, (l.flight? cluster w).bind Flight.due with
  | some a, some b => some (min a b)
  | some a, none => some a
  | none, b => b

end Launcher
end ClusterControl
