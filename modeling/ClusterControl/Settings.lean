import ClusterControl.Failure
import ClusterControl.Path
import ClusterControl.Toml.Document
/-!
# Settings

How a server is set up: where it listens, how it logs and how it runs its clusters.  Settings come
from a configuration file, in which everything may be left out, and from the command line, which
goes before the file.
-/

namespace ClusterControl

/-- What a restarted node is waited for with. -/
inductive RestartPolicy
  | node
  | cluster
deriving Repr, DecidableEq, Inhabited

/-- The word for a policy. -/
def RestartPolicy.word : RestartPolicy → String
  | node => "node"
  | cluster => "cluster"

/-- Where a server listens and how long its callers wait. -/
structure ServerSettings where
  listen : String := "127.0.0.1:8080"
  gateway : String := "127.0.0.1:8081"
  dialTimeoutSecs : Nat := 10
deriving Repr, DecidableEq

/-- How a server logs. -/
structure LogSettings where
  level : String := "info"
  format : String := "pretty"
deriving Repr, DecidableEq

/-- How a server runs its clusters. -/
structure ClusterSettings where
  nodeCount : Nat := 5
  -- how long a cluster may take to report healthy
  healthTimeoutSecs : Nat := 120
  basePort : Nat := 9650
  -- the directory that holds every node's directory; a fresh one if there is none
  rootDir : Option String := none
  restartPolicy : RestartPolicy := .node
deriving Repr, DecidableEq

/-- How a server is set up. -/
structure Settings where
  server : ServerSettings := {}
  logging : LogSettings := {}
  cluster : ClusterSettings := {}
deriving Repr, DecidableEq

namespace Settings

/-! ## Reading a file -/

/-- A field of a table that is read into a record. -/
structure FieldOf (ρ : Type) where
  name : String
  -- puts a value into the record, if it is of the right kind
  set : Toml → ρ → Option ρ

/-- Reads a table into a record, whose fields keep their values where the table has none; keys that
are no fields do not count.  A sequence gives the fields in order. -/
def readInto {ρ : Type} (fields : List (FieldOf ρ)) (value : Toml) (r : ρ) : Option ρ :=
  match value with
  | .table _ entries =>
    entries.foldlM (fun r e =>
      match fields.find? fun f => f.name = e.1 with
      | some f => f.set e.2 r
      | none => some r) r
  | .list items => (fields.zip items).foldlM (fun r p => p.1.set p.2 r) r
  | .tables items =>
    (fields.zip (items.map (Toml.table .header))).foldlM (fun r p => p.1.set p.2 r) r
  | _ => none

/-- A text. -/
def textOf? : Toml → Option String
  | .text s => some s
  | _ => none

/-- An integer from `0` to `max`. -/
def numberOf? (max : Nat) : Toml → Option Nat
  | .int i => if 0 ≤ i ∧ i ≤ (max : Int) then some i.toNat else none
  | _ => none

/-- An empty table or sequence. -/
def isEmptyValue : Toml → Bool
  | .table _ entries => entries.isEmpty
  | .list items => items.isEmpty
  | _ => false

/-- The policy that a word stands for. -/
def policyOfWord? (s : String) : Option RestartPolicy :=
  if s = "node" then some .node else if s = "cluster" then some .cluster else none

/-- A policy: its word, or a table that has its word as a key and nothing under it. -/
def policyOf? : Toml → Option RestartPolicy
  | .text s => policyOfWord? s
  | .table origin ((key, value) :: more) =>
    if (origin = .inlined && !more.isEmpty) || !isEmptyValue value then none else policyOfWord? key
  | _ => none

/-- The greatest number of a machine word. -/
def maxWord : Nat := UInt64.size - 1

/-- The fields of the server's table. -/
def serverFields : List (FieldOf ServerSettings) := [
  ⟨"listen", fun v r => do some { r with listen := ← textOf? v }⟩,
  ⟨"gateway", fun v r => do some { r with gateway := ← textOf? v }⟩,
  ⟨"dial_timeout_secs", fun v r => do some { r with dialTimeoutSecs := ← numberOf? maxWord v }⟩]

/-- The fields of the table of the log. -/
def logFields : List (FieldOf LogSettings) := [
  ⟨"level", fun v r => do some { r with level := ← textOf? v }⟩,
  ⟨"format", fun v r => do some { r with format := ← textOf? v }⟩]

/-- The fields of the clusters' table. -/
def clusterFields : List (FieldOf ClusterSettings) := [
  ⟨"node_count", fun v r => do some { r with nodeCount := ← numberOf? maxWord v }⟩,
  ⟨"health_timeout_secs", fun v r => do some { r with healthTimeoutSecs := ← numberOf? maxWord v }⟩,
  ⟨"base_http_port", fun v r => do some { r with basePort := ← numberOf? 65535 v }⟩,
  ⟨"root_dir", fun v r => do some { r with rootDir := some (← textOf? v) }⟩,
  ⟨"restart_policy", fun v r => do some { r with restartPolicy := ← policyOf? v }⟩]

/-- The tables of a configuration file. -/
def fields : List (FieldOf Settings) := [
  ⟨"server", fun v r => do some { r with server := ← readInto serverFields v {} }⟩,
  ⟨"logging", fun v r => do some { r with logging := ← readInto logFields v {} }⟩,
  ⟨"cluster", fun v r => do some { r with cluster := ← readInto clusterFields v {} }⟩]

/-- The settings that a file spells out, allowed or not. -/
def read? (content : String) : Option Settings := do
  readInto fields (.table .header (← Toml.parse? content)) {}

/-! ## Checking -/

/-- The address that a field gives. -/
def address (field value : String) : Outcome SocketAddress :=
  match SocketAddress.parse? value with
  | some a => .ok a
  | none => .error (.config (.invalidValue field
      (quoted value ++ ": invalid socket address syntax")))

/-- The address of the control server. -/
def listenAddress (s : Settings) : Outcome SocketAddress :=
  address "server.listen" s.server.listen

/-- The address of the gateway. -/
def gatewayAddress (s : Settings) : Outcome SocketAddress :=
  address "server.gateway" s.server.gateway

/-- A number that must not be zero. -/
def checkPositive (field : String) (n : Nat) : Outcome Unit :=
  if n = 0 then .error (.config (.invalidValue field "must be greater than 0")) else .ok ()

/-- The form of the log must be one of two. -/
def checkFormat (format : String) : Outcome Unit :=
  if format = "pretty" || format = "json" then .ok ()
  else .error (.config (.invalidValue "logging.format"
    ("expected \"pretty\" or \"json\", got " ++ quoted format)))

/-- Complains about the first setting that is not allowed. -/
def validate (s : Settings) : Outcome Unit := do
  let _ ← s.listenAddress
  let _ ← s.gatewayAddress
  checkPositive "server.dial_timeout_secs" s.server.dialTimeoutSecs
  checkPositive "cluster.node_count" s.cluster.nodeCount
  checkPositive "cluster.health_timeout_secs" s.cluster.healthTimeoutSecs
  checkFormat s.logging.format

/-- The settings that the content of a file gives. -/
def parse (content : String) : Outcome Settings :=
  match read? content with
  | none => .error (.config .unparsable)
  | some s => do
    s.validate
    .ok s

/-- The settings that the bytes of a file give. -/
def ofBytes (bytes : List UInt8) : Outcome Settings :=
  match Utf8.decode? bytes with
  | some content => parse content
  | none => .error (.config (.unreadable (.custom "stream did not contain valid UTF-8")))

/-- How long a connection may take. -/
def dialTimeout (s : Settings) : Duration :=
  .ofSecs s.server.dialTimeoutSecs

/-- How long a cluster may take to report healthy. -/
def healthTimeout (s : Settings) : Duration :=
  .ofSecs s.cluster.healthTimeoutSecs

end Settings

/-! ## The command line -/

/-- What the command line sets. -/
structure ServerFlags where
  config : Option Path := none
  port : Option UInt16 := none
  gatewayPort : Option UInt16 := none
  dialTimeout : Option Nat := none
  logLevel : Option String := none
  logFormat : Option String := none
deriving Repr, DecidableEq

/-- An address with the port that the command line gives, if it gives one. -/
def SocketAddress.override (port : Option UInt16) (current : String)
    (parsed : Outcome SocketAddress) : Outcome String :=
  match port with
  | none => .ok current
  | some port => parsed.map fun a => (a.withPort port).text

/-- The settings of a file, or those without one, as the command line changes them. -/
def ServerFlags.resolve (flags : ServerFlags) (file : Option (Outcome Settings)) :
    Outcome Settings := do
  let s ← file.getD (.ok {})
  let listen ← SocketAddress.override flags.port s.server.listen s.listenAddress
  let gateway ← SocketAddress.override flags.gatewayPort s.server.gateway s.gatewayAddress
  let s : Settings := { s with
    server := {
      listen := listen
      gateway := gateway
      dialTimeoutSecs := flags.dialTimeout.getD s.server.dialTimeoutSecs }
    logging := {
      level := flags.logLevel.getD s.logging.level
      format := flags.logFormat.getD s.logging.format } }
  s.validate
  .ok s

end ClusterControl
