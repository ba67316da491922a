import ClusterControl.Failure
import ClusterControl.Node
import ClusterControl.Table
/-!
# Crews of processes

The processes of a cluster, each under the name of its node.  A process belongs to the crew until it
is handed over to be ended, which happens once: when its node is taken out, when the crew is shut
down, or when a launch fails after some processes have been started.
-/

namespace ClusterControl

/-- How the operating system answers while a process is being ended. -/
structure Parting where
  -- whether the process is found gone before it is asked to end
  gone : Except IoError Bool := .ok false
  -- what comes of waiting for its end; none if it does not end in the time that it is given
  leaving : Option (Except IoError Unit) := some (.ok ())
  -- what comes of ending it by force
  forced : Except IoError Unit := .ok ()
deriving DecidableEq

/-- What comes of ending a process.  One that is gone is left alone, and one that does not end in
time is ended by force. -/
def Parting.outcome (p : Parting) : Outcome Unit :=
  match p.gone with
  | .error cause => .error (.io cause)
  | .ok true => .ok ()
  | .ok false =>
    match p.leaving.getD p.forced with
    | .error cause => .error (.io cause)
    | .ok () => .ok ()

/-- How the operating system answers: the attempts to start a process are numbered, and so are the
processes, by the attempts that they come from. -/
structure ProcessHost where
  -- why an attempt to start the process of a node fails, if it does
  spawnFault : Nat → NodeConfig → Option Failure
  parting : Nat → Parting

/-- Why a process cannot be ended, if it cannot. -/
def ProcessHost.endFault (host : ProcessHost) (n : Nat) : Option Failure :=
  match (host.parting n).outcome with
  | .error e => some e
  | .ok () => none

/-- The processes of a cluster. -/
structure Crew where
  running : Table Nat := {}
  -- how many times a process was to be started
  attempts : Nat := 0
  -- the processes that were started, under the names of their nodes
  spawned : List (String × Nat) := []
  -- the processes that were handed over to be ended, the newest last
  dismissed : List (String × Nat) := []
deriving Repr, DecidableEq

namespace Crew

/-- Starts the process of a node. -/
def spawn (host : ProcessHost) (c : Crew) (config : NodeConfig) : Outcome Unit × Crew :=
  let n := c.attempts
  let c := { c with attempts := n + 1 }
  match host.spawnFault n config with
  | some e => (.error e, c)
  | none =>
    (.ok (), { c with
      running := c.running.insert config.name n, spawned := c.spawned ++ [(config.name, n)] })

/-- What went wrong with the nodes whose processes could not be ended. -/
def complaints (host : ProcessHost) (processes : List (String × Nat)) : List String :=
  processes.filterMap fun p => (host.endFault p.2).map fun e => p.1 ++ ": " ++ e.message

/-- Ends all processes, whatever comes of each. -/
def shutdown (host : ProcessHost) (c : Crew) : Outcome Unit × Crew :=
  let complaints := complaints host c.running.entries
  (if complaints.isEmpty then .ok () else .error (.shutdown ("; ".intercalate complaints)),
    { c with running := {}, dismissed := c.dismissed ++ c.running.entries })

/-- Starts the processes of nodes one after the other; if one cannot be started, those before it
are ended again. -/
def spawnAll (host : ProcessHost) : List NodeConfig → Crew → Outcome Unit × Crew
  | [], c => (.ok (), c)
  | config :: rest, c =>
    match c.spawn host config with
    | (.ok (), c) => spawnAll host rest c
    | (.error e, c) => (.error e, (c.shutdown host).2)

/-- Starts a crew. -/
def launch (host : ProcessHost) (configs : List NodeConfig) : Outcome Unit × Crew :=
  spawnAll host configs {}

/-- Takes a node out and ends its process. -/
def removeNode (host : ProcessHost) (c : Crew) (name : String) : Outcome Unit × Crew :=
  match c.running.get? name with
  | none => (.error (.notFound name), c)
  | some n =>
    ((host.parting n).outcome,
      { c with running := c.running.erase name, dismissed := c.dismissed ++ [(name, n)] })

/-- Starts the process of one more node. -/
def addNode (host : ProcessHost) (c : Crew) (config : NodeConfig) : Outcome Unit × Crew :=
  if c.running.contains config.name then
    (.error (.launch ("node " ++ config.name ++ " is already running")), c)
  else c.spawn host config

/-- What can be asked of a crew. -/
inductive Task
  | add (config : NodeConfig)
  | remove (name : String)
  | shutdown
deriving Repr, DecidableEq

/-- Does one thing. -/
def perform (host : ProcessHost) (c : Crew) : Task → Outcome Unit × Crew
  | .add config => c.addNode host config
  | .remove name => c.removeNode host name
  | .shutdown => c.shutdown host

/-- Does one thing after the other. -/
def run (host : ProcessHost) (c : Crew) (tasks : List Task) : Crew :=
  tasks.foldl (fun c t => (c.perform host t).2) c

end Crew
end ClusterControl
