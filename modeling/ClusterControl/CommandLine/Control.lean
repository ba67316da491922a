import ClusterControl.Client.Session
import ClusterControl.CommandLine.Invocation
import ClusterControl.CommandLine.Report
/-!
# Control commands

What each command that calls a control server asks, and what it prints of the answer.
-/

namespace ClusterControl

/-- What a command has come to. -/
structure CommandRun where
  -- whether it worked; nothing if it goes on for ever
  outcome : Option (Outcome Unit) := some (.ok ())
  printed : Printed := {}
  sent : List Request := []

namespace StartFlags

/-- What a node is to be started with. -/
def options (f : StartFlags) : StartOptions := ⟨f.subnets, f.logLevel⟩

end StartFlags

namespace Terminal

/-- Asks a question and prints the answer. -/
def asking {α : Type} (t : Terminal) (s : Session) (a : Ask α) (show? : Terminal → α → Printed) :
    CommandRun :=
  match s.ask a with
  | (some (.ok v), s) => { printed := show? t v, sent := s.sent }
  | (some (.error e), s) => { outcome := some (.error e), sent := s.sent }
  | (none, s) => { outcome := none, sent := s.sent }

/-- Prints the server's process. -/
def presence (t : Terminal) (pid : UInt32) : Printed :=
  if t.json then jsonLine "ping" (.obj [("pid", .num pid.toNat)])
  else t.success ("Server is up (pid " ++ toString pid.toNat ++ ")")

/-- Prints URIs, one per line. -/
def listing (t : Terminal) (uris : List String) : Printed :=
  if t.json then jsonLine "uris" (.obj [("uris", .arr (uris.map .str))])
  else .concat (uris.map .line)

/-- Prints how a stream ended. -/
def farewell (t : Terminal) : Termination → Printed
  | .cleanEof => t.success "Stream closed by server"
  | .callerCancelled => t.warning "Stream cancelled"
  | .transportFailure status => t.failure ("Stream failed: " ++ status.render)

/-- Follows a stream and prints its reports. -/
def following (t : Terminal) (s : Session) (intervalMs : UInt64) : CommandRun :=
  match s.follow intervalMs {} with
  | (.error e, s) => { outcome := some (.error e), sent := s.sent }
  | (.ok followed, s) =>
    let reports := Printed.concat (followed.got.map t.progress)
    match followed.ended with
    | some why => { printed := reports ++ t.farewell why, sent := s.sent }
    | none => { outcome := none, printed := reports, sent := s.sent }

end Terminal

namespace ControlCall

/-- Carries a command out on a connected client.  Signs of progress are drawn on a screen only, so
that nothing of them is printed. -/
def runOn (call : ControlCall) (t : Terminal) (s : Session) : CommandRun :=
  match call with
  | ping => t.asking s .ping Terminal.presence
  | start execPath flags => t.asking s (.start execPath flags.options) Terminal.cluster
  | health => t.asking s .health Terminal.cluster
  | uris => t.asking s .uris Terminal.listing
  | status => t.asking s .status Terminal.cluster
  | streamStatus ms => t.following s ms.toUInt64
  | removeNode name =>
    t.asking s (.removeNode name) fun t info => t.success ("Removed " ++ name) ++ t.cluster info
  | restartNode name execPath flags =>
    t.asking s (.restartNode name (execPath.getD {}) flags.options) Terminal.cluster
  | stop => t.asking s .stop fun t info => t.success "Cluster stopped" ++ t.cluster info

/-- Connects to a control server and carries a command out. -/
def run (call : ControlCall) (t : Terminal) (d : Dial) (reach : Reach) (lines : List Line) :
    CommandRun :=
  match Session.connect d reach lines with
  | (.ok s, _) => call.runOn t s
  | (.error e, sent) => { outcome := some (.error e), sent := sent }

end ControlCall
end ClusterControl
