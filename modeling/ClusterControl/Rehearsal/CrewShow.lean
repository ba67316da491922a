import ClusterControl.Net.Reach
import ClusterControl.Nodes.Crew
import ClusterControl.Nodes.Wait
import ClusterControl.Rehearsal.Host
import ClusterControl.Rehearsal.Script.Run
/-!
# Rehearsing a crew

A crew of processes on a clock.  Each process follows a script, so that it is known beforehand what
it writes and how it ends when it is left alone; and each node's answers to probes are known, as far
as the network lets them through.
-/

namespace ClusterControl

/-- A node that can be launched. -/
structure Site where
  config : NodeConfig
  -- its script, unless it is launched from a file that is no script
  script : Option String
  -- there is a directory where its configuration file goes
  blocked : Bool := false
  -- its answers to the question whether it is healthy; the last one repeats
  health : List HttpReply := []
  info : List HttpReply := []

/-- A process. -/
structure Child where
  crew : Nat
  number : Nat
  -- what stands in front of the lines that it writes
  label : String
  started : Nat
  life : Script.Life
  ended : Option Nat := none

/-- A crew on a clock. -/
structure CrewShow where
  root : String
  echo : Bool
  interval : Nat
  -- the time that a process is given to end
  grace : Nat
  reach : Reach
  sites : Table Site
  now : Nat := 0
  crew : Option Crew := none
  generation : Nat := 0
  children : List Child := []
  logDirs : List String := []
  files : Table (List UInt8) := {}
  -- how often each node was asked whether it is healthy, and for its identifier
  polls : Table (Nat × Nat) := {}

namespace Child

/-- When the process is gone, if it ever is. -/
def gone? (c : Child) : Option Nat :=
  let left := c.life.ending.map fun e => c.started + e.1
  match left, c.ended with
  | some a, some b => some (min a b)
  | a, b => a <|> b

/-- The process is gone at a time. -/
def isGone (c : Child) (now : Nat) : Bool :=
  c.gone?.any fun t => t ≤ now

/-- What a look at the process finds. -/
def sight (c : Child) (now : Nat) : ProcessSight :=
  if c.ended.any fun t => t ≤ now then .stopped
  else
    match c.life.ending with
    | some (t, status) => if c.started + t ≤ now then .ended status else .running
    | none => .running

/-- The process after it was asked to end. -/
def askedToEnd (c : Child) (now : Nat) : Child :=
  match c.life.farewell with
  | some farewell =>
    let time := now - c.started
    let put (bytes : List UInt8) (chunks : List (Nat × List UInt8)) :=
      (chunks.filter fun chunk => chunk.1 ≤ time) ++
        ((time, bytes) :: chunks.filter fun chunk => time < chunk.1)
    if c.isGone now then c
    else
      { c with life := { c.life with
          out := put farewell.out c.life.out, err := put farewell.err c.life.err } }
  | none => c

/-- The bytes of a stream that have been read as lines up to a time. -/
def heard (c : Child) (now : Nat) (chunks : List (Nat × List UInt8)) : List UInt8 :=
  let last := match c.ended with
    | some t => min t now
    | none => now
  let bytes := (chunks.filter fun chunk => c.started + chunk.1 ≤ last).flatMap Prod.snd
  if c.isGone now then bytes
  else (bytes.reverse.dropWhile (· ≠ Echo.lineFeed)).reverse

/-- The lines that are shown of the process up to a time. -/
def lines (c : Child) (now : Nat) : List String :=
  Echo.lines c.label (c.heard now c.life.out) ++ Echo.lines c.label (c.heard now c.life.err)

/-- The times at which something may be shown of the process. -/
def moments (c : Child) : List Nat :=
  (c.life.out ++ c.life.err).map (fun chunk => c.started + chunk.1) ++ c.gone?.toList

end Child

namespace CrewShow

/-- The file that holds the configuration of a node. -/
def configFile (config : NodeConfig) : Path :=
  config.dbDir.join "config.json"

/-- What goes wrong before the process of a node is started, or when it is; with how far it got: the
log directory is there, and the configuration file is. -/
def preparation (s : CrewShow) (site : Site) : Option (String × IoError) × Bool × Bool :=
  let config := site.config
  match Host.creationFault? config.logDir with
  | some cause => (some ("creating log dir", cause), false, false)
  | none =>
    match Host.creationFault? config.dbDir with
    | some cause => (some ("creating db dir", cause), true, false)
    | none =>
      if site.blocked then (some ("writing config file", .system 21), true, false)
      else
        let fault := match site.script with
          | some _ => none
          | none => Host.startFault? [s.root] config.execPath.text
        (fault.map fun cause => ("spawning " ++ config.execPath.text, cause), true, true)

/-- Why no process can be started for a node, if none can. -/
def launchFault? (s : CrewShow) (site : Site) : Option Failure :=
  (s.preparation site).1.map fun (what, cause) =>
    .launch (what ++ " for " ++ site.config.name ++ ": " ++ cause.message)

/-- The operating system. -/
def host (s : CrewShow) : ProcessHost where
  spawnFault _ config := (s.sites.get? config.name).bind s.launchFault?
  parting _ := {}

/-- What the process of a node does. -/
def lifeOf (s : CrewShow) (site : Site) : Script.Life :=
  let file := (configFile site.config).text
  let script := site.script <|> Host.program? site.config.execPath.text
  Script.lifeOf
    { called := site.config.execPath.text
      arguments := ["--config-file=" ++ file]
      files := [(file, site.config.payload)]
      heard := s.echo }
    (Script.Command.ofScript (script.getD ""))

/-- An attempt to start the process of a node has been made, the `n`-th one of the crew. -/
def attempted (s : CrewShow) (n : Nat) (config : NodeConfig) : CrewShow :=
  match s.sites.get? config.name with
  | none => s
  | some site =>
    let (fault, logged, written) := s.preparation site
    let s := if logged then { s with logDirs := config.name :: s.logDirs } else s
    let s := if written then { s with files := s.files.insert config.name config.payload } else s
    if fault.isSome then s
    else
      { s with children :=
          { crew := s.generation, number := n, label := Echo.label config.name n, started := s.now
            life := s.lifeOf site } :: s.children }

/-- Ends the processes of the crew with these numbers; those that do not end when they are asked to
are given some time. -/
def dismiss (s : CrewShow) (numbers : List Nat) : CrewShow :=
  let mine (c : Child) : Bool :=
    c.crew = s.generation && numbers.contains c.number && c.ended.isNone
  let lingers (c : Child) : Bool := !c.isGone s.now && c.life.farewell.any fun f => !f.ends
  let slow := s.children.any fun c => mine c && lingers c
  { s with
    children := s.children.map fun c =>
      if mine c then
        let ended := if lingers c then s.now + s.grace else s.now
        { c.askedToEnd s.now with ended := some ended }
      else c
    now := if slow then s.now + s.grace else s.now }

/-- The crew after something was done to it. -/
def settle (s : CrewShow) (before after : Crew) : CrewShow :=
  let dismissed := after.dismissed.drop before.dismissed.length
  { s.dismiss (dismissed.map Prod.snd) with crew := some after }

/-- The configurations of nodes. -/
def configs (s : CrewShow) (names : List String) : List NodeConfig :=
  (names.filterMap s.sites.get?).map Site.config

/-- Launches a crew for some of the nodes. -/
def launch (s : CrewShow) (names : List String) : Outcome Unit × CrewShow :=
  let configs := s.configs names
  let (result, crew) := Crew.launch s.host configs
  let s := { s with generation := s.generation + 1 }
  let s := ((configs.take crew.attempts).zipIdx).foldl (fun s c => s.attempted c.2 c.1) s
  let s := s.dismiss (crew.dismissed.map Prod.snd)
  (result, match result with
    | .ok () => { s with crew := some crew }
    | .error _ => s)

/-- Adds a node to the crew. -/
def add (s : CrewShow) (crew : Crew) (config : NodeConfig) : Outcome Unit × CrewShow :=
  let (result, after) := crew.addNode s.host config
  let s := if crew.attempts < after.attempts then s.attempted crew.attempts config else s
  (result, s.settle crew after)

/-- Takes a node out of the crew. -/
def remove (s : CrewShow) (crew : Crew) (name : String) : Outcome Unit × CrewShow :=
  let (result, after) := crew.removeNode s.host name
  (result, s.settle crew after)

/-- Ends the crew. -/
def shutdown (s : CrewShow) (crew : Crew) : Outcome Unit × CrewShow :=
  let (result, after) := crew.shutdown s.host
  (result, s.settle crew after)

/-! ## Waiting -/

/-- The URI of a node, whose port is written as the node's name. -/
def uriOf (name : String) : String :=
  "http://127.0.0.1:\x7b" ++ name ++ "\x7d"

/-- What a node answers to a question that it was asked so often before. -/
def reply (s : CrewShow) (answers : List HttpReply) (asked : Nat) : HttpReply :=
  match s.reach.obstacle? (.v4 (IPv4.ofNat 2130706433)) 0 with
  | some _ => .nothing
  | none => (answers[asked]? <|> answers.getLast?).getD .nothing

/-- The network lets questions through. -/
def isOpen (s : CrewShow) : Bool :=
  (s.reach.obstacle? (.v4 (IPv4.ofNat 2130706433)) 0).isNone

/-- A process of the crew by its number. -/
def child? (s : CrewShow) (generation number : Nat) : Option Child :=
  s.children.find? fun c => c.crew = generation && c.number = number

/-- The nodes with these names, as their handles tell of them before they are healthy. -/
def handles (names : List String) : Table NodeReport :=
  NodeReport.table (names.map fun name => ⟨name, uriOf name, ""⟩)

/-- What happens in one turn of a wait at a node with a process. -/
def eventsAt (s : CrewShow) (generation number : Nat) (w : NodeWait) : CrewShow × List NodeEvent :=
  let name := w.node.name
  let look := NodeEvent.look
    (((s.child? generation number).map fun c => c.sight s.now).getD .stopped)
  let w := w.step s.interval s.now look
  if w.phase ≠ .probing then (s, [look])
  else
    let site := s.sites.get? name
    let (healths, infos) := (s.polls.get? name).getD (0, 0)
    let count (a b : Nat) : CrewShow :=
      if s.isOpen then { s with polls := s.polls.insert name (a, b) } else s
    let health := NodeEvent.health (s.reply ((site.map Site.health).getD []) healths)
    let w := w.step s.interval s.now health
    if w.phase ≠ .identifying then (count (healths + 1) infos, [look, health])
    else
      (count (healths + 1) (infos + 1),
        [look, health, .identity (s.reply ((site.map Site.info).getD []) infos)])

/-- One turn of a wait for a node. -/
def turn (generation number : Nat) (p : CrewShow × NodeWait) : CrewShow × NodeWait :=
  let (s, w) := p
  let (next, events) := s.eventsAt generation number w
  (next, w.run s.interval (events.map fun e => (s.now, e)))

/-- One turn of a wait for several nodes with processes. -/
def turnAll (generation : Nat) (nodes : List (String × Nat)) (p : CrewShow × CrewWait) :
    CrewShow × CrewWait :=
  nodes.foldl (fun (s, w) (name, number) =>
    match w.nodes.get? name with
    | none => (s, w)
    | some node =>
      let (next, events) := s.eventsAt generation number node
      (next, w.run joinAll s.interval (events.map fun e => (s.now, name, e)))) p

/-- Takes turns until a wait is over or the time is up, with a bound on the number of turns. -/
def turns {α : Type} (turn : CrewShow × α → CrewShow × α) (isOver : α → Bool) (deadline : Nat) :
    Nat → CrewShow × α → CrewShow × α
  | 0, p => p
  | n + 1, p =>
    let p := turn p
    if isOver p.2 then p
    else
      let next := p.1.now + max 1 p.1.interval
      if deadline < next then ({ p.1 with now := deadline }, p.2)
      else turns turn isOver deadline n ({ p.1 with now := next }, p.2)

/-- Goes on with a wait for some time. -/
def waitFor {α : Type} (s : CrewShow) (turn : CrewShow × α → CrewShow × α) (isOver : α → Bool)
    (within : Nat) (w : α) : α × CrewShow :=
  let (s, w) := turns turn isOver (s.now + within) (within + 1) (s, w)
  (w, s)

/-- What is told of a node. -/
def told (r : NodeReport) : String × String × String :=
  (r.name, r.uri, r.id)

/-- Waits for all nodes of the crew. -/
def waitAll (s : CrewShow) (crew : Crew) (within : Nat) :
    Option (Outcome (List (String × String × String))) × CrewShow :=
  let (w, s) := s.waitFor (turnAll s.generation crew.running.entries)
    (fun w => w.result?.isSome) within (.create joinAll (handles crew.running.names))
  (w.result?.map fun r => r.map fun reports => reports.values.map told, s)

/-- Goes on with a wait for one node with a process. -/
def waitOn (s : CrewShow) (generation number within : Nat) (w : NodeWait) : NodeWait × CrewShow :=
  s.waitFor (turn generation number) (fun w => w.result?.isSome) within w

/-- What a wait for one node gives. -/
def resultOf (w : NodeWait) : Option (Outcome (List (String × String × String))) :=
  w.result?.map fun r => r.map fun report => [told report]

/-- Waits for one node of the crew. -/
def waitOne (s : CrewShow) (crew : Crew) (name : String) (within : Nat) :
    Option (Outcome (List (String × String × String))) × CrewShow :=
  match NodeWait.create (handles crew.running.names) name, crew.running.get? name with
  | .error e, _ => (some (.error e), s)
  | .ok _, none => (none, s)
  | .ok w, some number =>
    let (w, s) := s.waitOn s.generation number within w
    (resultOf w, s)

/-- Waits for a node that is taken out some time after the wait has begun. -/
def removeWhileWaiting (s : CrewShow) (crew : Crew) (name : String) (after within : Nat) :
    Option (Outcome (List (String × String × String))) × Outcome Unit × CrewShow :=
  match NodeWait.create (handles crew.running.names) name, crew.running.get? name with
  | .ok w, some number =>
    let start := s.now
    let generation := s.generation
    let (w, s) := s.waitOn generation number after w
    let (removed, s) := { s with now := start + after }.remove crew name
    let (w, s) := if w.result?.isSome then (w, s) else s.waitOn generation number within w
    (resultOf w, removed, s)
  | started, _ =>
    let (removed, s) := s.remove crew name
    (match started with
      | .error e => some (.error e)
      | .ok _ => none, removed, s)

/-! ## Output -/

/-- The lines that have been shown up to a time, in order. -/
def shown (s : CrewShow) (now : Nat) : List String :=
  if s.echo then (s.children.flatMap fun c => c.lines now).mergeSort (fun a b => decide (a ≤ b))
  else []

/-- How long lines are waited for. -/
def patience : Nat := 5000

/-- Waits until so many lines have been shown, and gives all of them. -/
def output (s : CrewShow) (count : Nat) : List String × CrewShow :=
  let times := (s.now :: s.children.flatMap Child.moments).mergeSort (fun a b => decide (a ≤ b))
  let found := times.find? fun t => s.now ≤ t && count ≤ (s.shown t).length
  let time := found.getD (s.now + patience)
  (s.shown time, { s with now := time })

end CrewShow
end ClusterControl
