import ClusterControl.CommandLine.Control
import ClusterControl.Net.Reach
/-!
# The program

What a whole run of the program prints and with which code it ends, by its command line and by the
machine that it runs on.
-/

namespace ClusterControl

/-- The machine that the program runs on. -/
structure Machine where
  reach : Reach
  fileAt : Path → Except IoError (List UInt8)
  pid : String
  -- what the control server that is called does on each connection
  lines : List Line := []

/-- What a run of the program comes to. -/
structure ProgramRun where
  code : Nat
  printed : Printed := {}
  -- the addresses at which it serves until it is told to end: its own and the gateway's
  serving : Option (String × String) := none
deriving Repr, DecidableEq

namespace UsageError

/-- The code that the program ends with if its command line is refused; a question for help or for
the version is none that is refused. -/
def exitCode : UsageError → Nat
  | help => 0
  | version => 0
  | _ => 2

end UsageError

namespace ProgramRun

/-- A run that fails. -/
def failing (t : Terminal) (before : Printed) (e : Failure) : ProgramRun :=
  { code := 1, printed := before ++ t.failure e.message }

/-- The settings of a server. -/
def settings (m : Machine) (flags : ServerFlags) : Outcome Settings :=
  flags.resolve (flags.config.map fun path =>
    match m.fileAt path with
    | .ok bytes => Settings.ofBytes bytes
    | .error cause => .error (.config (.unreadable cause)))

/-- Listens at both addresses of a server. -/
def listen (reach : Reach) (s : Settings) : Outcome (String × String) := do
  let control ← s.listenAddress
  let shownControl ← (reach.listen [] control).mapError .io
  let gateway ← s.gatewayAddress
  let shownGateway ← (reach.listen [control] gateway).mapError .io
  .ok (shownControl, shownGateway)

/-- Runs a server until it is told to end. -/
def server (m : Machine) (t : Terminal) (flags : ServerFlags) : ProgramRun :=
  match settings m flags with
  | .error e => failing t {} e
  | .ok s =>
    let header := t.header programVersion
    match listen m.reach s with
    | .error e => failing t header e
    | .ok (control, gateway) =>
      { code := 0
        printed := header ++ t.field "Control" (t.highlight control) ++
          t.field "Gateway" (t.highlight gateway) ++ t.field "Pid" m.pid
        serving := some (control, gateway) }

/-- Calls a control server. -/
def control (m : Machine) (t : Terminal) (d : Dial) (call : ControlCall) : ProgramRun :=
  let run := call.run t d m.reach m.lines
  match run.outcome with
  | some (.error e) => failing t run.printed e
  | _ => { code := 0, printed := run.printed }

/-- Runs the program with the words of its command line. -/
def ofWords (m : Machine) (words : List String) : ProgramRun :=
  match Invocation.parse words with
  | .error .version => { code := 0, printed := ⟨Invocation.versionText, ""⟩ }
  | .error e => { code := e.exitCode }
  | .ok i =>
    let t : Terminal := ⟨i.json, i.quiet⟩
    match i.command with
    | .server flags => server m t flags
    | .control endpoint seconds call => control m t ⟨endpoint, .ofSecs seconds⟩ call

end ProgramRun
end ClusterControl
