import ClusterControl.CommandLine.Grammar
import ClusterControl.Settings
/-!
# Invocations

The commands of the program: to run a control server, and to drive one that runs.
-/

namespace ClusterControl

/-- The name of the program. -/
def programName : String := "localnet"

/-- The version of the program. -/
def programVersion : String := "0.1.0"

/-- What a node is started with. -/
structure StartFlags where
  subnets : Option String := none
  logLevel : Option String := none
deriving Repr, DecidableEq

/-- A call of a control server. -/
inductive ControlCall
  | ping
  | start (execPath : Path) (flags : StartFlags)
  | health
  | uris
  | status
  | streamStatus (intervalMs : Nat)
  | removeNode (name : String)
  | restartNode (name : String) (execPath : Option Path) (flags : StartFlags)
  | stop
deriving Repr, DecidableEq

/-- The word for a call. -/
def ControlCall.word : ControlCall → String
  | ping => "ping"
  | start _ _ => "start"
  | health => "health"
  | uris => "uris"
  | status => "status"
  | streamStatus _ => "stream-status"
  | removeNode _ => "remove-node"
  | restartNode _ _ _ => "restart-node"
  | stop => "stop"

/-- What the program is to do. -/
inductive Command
  | server (flags : ServerFlags)
  | control (endpoint : String) (dialTimeout : Nat) (call : ControlCall)
deriving Repr, DecidableEq

/-- A whole command line. -/
structure Invocation where
  json : Bool
  quiet : Bool
  command : Command
deriving Repr, DecidableEq

/-- The address that a control server is called at by default. -/
def defaultEndpoint : String := "127.0.0.1:8080"

namespace Invocation

/-- The greatest number of a machine word. -/
def maxWord : Nat := UInt64.size - 1

/-- The options that every command takes. -/
def everywhere : List OptionSpec := [
  ⟨"json", none, .flag⟩,
  ⟨"quiet", some 'q', .flag⟩,
  ⟨"help", some 'h', .help⟩]

/-- A command with the options that every command takes. -/
def commandSpec (name : String) (options : List OptionSpec) (argument : Option String)
    (needed : List String) (subcommands : List CommandSpec) : CommandSpec :=
  .mk name (options ++ everywhere) argument needed subcommands

/-- The options for what a node is started with. -/
def startOptions : List OptionSpec := [
  ⟨"exec-path", none, .path⟩,
  ⟨"whitelisted-subnets", none, .text⟩,
  ⟨"node-log-level", none, .text⟩]

/-- The command that calls a control server. -/
def controlSpec : CommandSpec :=
  commandSpec "control" [⟨"endpoint", none, .text⟩, ⟨"dial-timeout", none, .number maxWord false⟩]
    none [] [
      commandSpec "ping" [] none [] [],
      commandSpec "start" startOptions none ["exec-path"] [],
      commandSpec "health" [] none [] [],
      commandSpec "uris" [] none [] [],
      commandSpec "status" [] none [] [],
      commandSpec "stream-status" [⟨"push-interval", none, .number maxWord false⟩] none [] [],
      commandSpec "remove-node" [] (some "name") ["name"] [],
      commandSpec "restart-node" startOptions (some "name") ["name"] [],
      commandSpec "stop" [] none [] []]

/-- The command that runs a control server. -/
def serverSpec : CommandSpec :=
  commandSpec "server" [
    ⟨"config", some 'c', .path⟩,
    ⟨"port", none, .number 65535 true⟩,
    ⟨"gateway-port", none, .number 65535 true⟩,
    ⟨"dial-timeout", none, .number maxWord false⟩,
    ⟨"log-level", none, .text⟩,
    ⟨"log-format", none, .text⟩] none [] []

/-- The whole program. -/
def spec : CommandSpec :=
  commandSpec programName [⟨"version", some 'V', .version⟩] none [] [serverSpec, controlSpec]

/-- The text that was given for a name. -/
def text? (p : Parsed) (name : String) : Option String :=
  match p.given.lookup name with
  | some (.text s) => some s
  | _ => none

/-- The number that was given for a name. -/
def number? (p : Parsed) (name : String) : Option Nat :=
  match p.given.lookup name with
  | some (.number n) => some n
  | _ => none

/-- The file that was given for a name. -/
def path? (p : Parsed) (name : String) : Option Path :=
  (text? p name).map .ofText

/-- What a node is started with. -/
def startFlags (p : Parsed) : StartFlags where
  subnets := text? p "whitelisted-subnets"
  logLevel := text? p "node-log-level"

/-- The call that a subcommand stands for. -/
def callOf (p : Parsed) (name : String) : Except UsageError ControlCall :=
  let node := (text? p "name").getD ""
  match name with
  | "ping" => .ok .ping
  | "start" => .ok (.start ((path? p "exec-path").getD {}) (startFlags p))
  | "health" => .ok .health
  | "uris" => .ok .uris
  | "status" => .ok .status
  | "stream-status" => .ok (.streamStatus ((number? p "push-interval").getD 5000))
  | "remove-node" => .ok (.removeNode node)
  | "restart-node" => .ok (.restartNode node (path? p "exec-path") (startFlags p))
  | "stop" => .ok .stop
  | _ => .error .invalidSubcommand

/-- What the program is to do. -/
def commandOf (p : Parsed) : Except UsageError Command :=
  match p.commands with
  | ["server"] => .ok (.server {
      config := path? p "config"
      port := (number? p "port").map Nat.toUInt16
      gatewayPort := (number? p "gateway-port").map Nat.toUInt16
      dialTimeout := number? p "dial-timeout"
      logLevel := text? p "log-level"
      logFormat := text? p "log-format" })
  | ["control", name] => do
    let call ← callOf p name
    .ok (.control ((text? p "endpoint").getD defaultEndpoint)
      ((number? p "dial-timeout").getD 10) call)
  | _ => .error .invalidSubcommand

/-- Reads the words after the program's name. -/
def parse (words : List String) : Except UsageError Invocation := do
  let p ← readCommand spec words {}
  let command ← commandOf p
  .ok {
    json := (p.given.lookup "json").isSome
    quiet := (p.given.lookup "quiet").isSome
    command := command }

/-- The text that answers a request for the version. -/
def versionText : String :=
  programName ++ " " ++ programVersion ++ "\n"

end Invocation
end ClusterControl
