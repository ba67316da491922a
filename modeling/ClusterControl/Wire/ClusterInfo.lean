import ClusterControl.Json.Reading
import ClusterControl.Snapshot
/-!
# Cluster reports

A snapshot as it is sent to a remote caller: one entry per node, with its configuration and what is
known of it side by side.
-/

namespace ClusterControl

/-- A node as it is reported. -/
structure NodeInfo where
  name : String
  execPath : String
  uri : String
  id : String
  logDir : String
  dbDir : String
  subnets : String
  config : List UInt8
deriving Repr, DecidableEq, Inhabited

/-- A cluster as it is reported. -/
structure ClusterInfo where
  names : List String
  nodes : Table NodeInfo
  pid : UInt32
  rootDir : String
  -- the cluster is healthy and every node has an endpoint
  healthy : Bool
deriving Repr, DecidableEq, Inhabited

/-- A node of a snapshot as it is reported; `none` if there is no such node. -/
def Snapshot.nodeInfo? (s : Snapshot) (name : String) : Option NodeInfo := do
  let config ← s.config? name
  let record ← s.record? name
  some {
    name := name
    execPath := config.execPath.text
    uri := record.uri
    id := record.id
    logDir := config.logDir.text
    dbDir := config.dbDir.text
    subnets := config.subnets
    config := config.payload }

/-- A snapshot as it is reported. -/
def Snapshot.info (s : Snapshot) : ClusterInfo where
  names := s.names
  nodes := .ofList (s.names.filterMap fun name => (s.nodeInfo? name).map (name, ·))
  pid := s.pid
  rootDir := s.rootDir.text
  healthy := s.healthy

/-! ## Writing -/

/-- A node as a value. -/
def NodeInfo.toJson (n : NodeInfo) : Json :=
  .obj [
    ("name", .str n.name),
    ("exec_path", .str n.execPath),
    ("uri", .str n.uri),
    ("id", .str n.id),
    ("log_dir", .str n.logDir),
    ("db_dir", .str n.dbDir),
    ("whitelisted_subnets", .str n.subnets),
    ("config", .arr (n.config.map fun b => .num b.toNat))]

/-- A cluster as a value. -/
def ClusterInfo.toJson (c : ClusterInfo) : Json :=
  .obj [
    ("node_names", .arr (c.names.map .str)),
    ("node_infos", .obj (c.nodes.entries.map fun e => (e.1, e.2.toJson))),
    ("pid", .num c.pid.toNat),
    ("root_data_dir", .str c.rootDir),
    ("healthy", .bool c.healthy)]

/-! ## Reading -/

/-- The fields of a node as far as they are read. -/
structure NodeFields where
  name : Option String := none
  execPath : Option String := none
  uri : Option String := none
  id : Option String := none
  logDir : Option String := none
  dbDir : Option String := none
  subnets : Option String := none
  config : Option (List UInt8) := none

/-- Reads a byte. -/
def readByteValue (s : Source) : Reading UInt8 := do
  .ok (← s.unsigned 255 "u8").toUInt8

/-- Reads a node. -/
def NodeInfo.read (s : Source) : Reading NodeInfo := do
  let r ← s.record "struct NodeInfo" [
      ⟨"name", false, fun r => r.name.isSome,
        fun r s => do .ok { r with name := some (← s.text) }⟩,
      ⟨"exec_path", false, fun r => r.execPath.isSome,
        fun r s => do .ok { r with execPath := some (← s.text) }⟩,
      ⟨"uri", false, fun r => r.uri.isSome,
        fun r s => do .ok { r with uri := some (← s.text) }⟩,
      ⟨"id", false, fun r => r.id.isSome,
        fun r s => do .ok { r with id := some (← s.text) }⟩,
      ⟨"log_dir", false, fun r => r.logDir.isSome,
        fun r s => do .ok { r with logDir := some (← s.text) }⟩,
      ⟨"db_dir", false, fun r => r.dbDir.isSome,
        fun r s => do .ok { r with dbDir := some (← s.text) }⟩,
      ⟨"whitelisted_subnets", false, fun r => r.subnets.isSome,
        fun r s => do .ok { r with subnets := some (← s.text) }⟩,
      ⟨"config", false, fun r => r.config.isSome,
        fun r s => do .ok { r with config := some (← s.list readByteValue) }⟩]
    ({} : NodeFields)
  let name ← required "name" r.name
  let execPath ← required "exec_path" r.execPath
  let uri ← required "uri" r.uri
  let id ← required "id" r.id
  let logDir ← required "log_dir" r.logDir
  let dbDir ← required "db_dir" r.dbDir
  let subnets ← required "whitelisted_subnets" r.subnets
  let config ← required "config" r.config
  .ok {
    name := name
    execPath := execPath
    uri := uri
    id := id
    logDir := logDir
    dbDir := dbDir
    subnets := subnets
    config := config }

/-- The fields of a cluster as far as they are read. -/
structure ClusterFields where
  names : Option (List String) := none
  nodes : Option (Table NodeInfo) := none
  pid : Option UInt32 := none
  rootDir : Option String := none
  healthy : Option Bool := none

/-- Reads the number of a process. -/
def readPid (s : Source) : Reading UInt32 := do
  .ok (← s.unsigned (UInt32.size - 1) "u32").toUInt32

/-- Reads a cluster. -/
def ClusterInfo.read (s : Source) : Reading ClusterInfo := do
  let r ← s.record "struct ClusterInfo" [
      ⟨"node_names", false, fun r => r.names.isSome,
        fun r s => do .ok { r with names := some (← s.list Source.text) }⟩,
      ⟨"node_infos", false, fun r => r.nodes.isSome,
        fun r s => do .ok { r with nodes := some (.ofList (← s.table NodeInfo.read)) }⟩,
      ⟨"pid", false, fun r => r.pid.isSome,
        fun r s => do .ok { r with pid := some (← readPid s) }⟩,
      ⟨"root_data_dir", false, fun r => r.rootDir.isSome,
        fun r s => do .ok { r with rootDir := some (← s.text) }⟩,
      ⟨"healthy", false, fun r => r.healthy.isSome,
        fun r s => do .ok { r with healthy := some (← s.bool) }⟩]
    ({} : ClusterFields)
  let names ← required "node_names" r.names
  let nodes ← required "node_infos" r.nodes
  let pid ← required "pid" r.pid
  let rootDir ← required "root_data_dir" r.rootDir
  let healthy ← required "healthy" r.healthy
  .ok { names := names, nodes := nodes, pid := pid, rootDir := rootDir, healthy := healthy }

/-! ## In a message -/

/-- Texts between brackets, with commas. -/
def bracketed (items : List String) : String :=
  "[" ++ String.intercalate ", " items ++ "]"

/-- Named values between braces, with commas. -/
def braced (name : String) (fields : List (String × String)) : String :=
  name ++ " \x7b " ++ String.intercalate ", " (fields.map fun f => f.1 ++ ": " ++ f.2) ++ " \x7d"

/-- A node in a message. -/
def NodeInfo.describe (n : NodeInfo) : String :=
  braced "NodeInfo" [
    ("name", quoted n.name),
    ("exec_path", quoted n.execPath),
    ("uri", quoted n.uri),
    ("id", quoted n.id),
    ("log_dir", quoted n.logDir),
    ("db_dir", quoted n.dbDir),
    ("whitelisted_subnets", quoted n.subnets),
    ("config", bracketed (n.config.map fun b => toString b.toNat))]

/-- A cluster in a message. -/
def ClusterInfo.describe (c : ClusterInfo) : String :=
  braced "ClusterInfo" [
    ("node_names", bracketed (c.names.map quoted)),
    ("node_infos", "\x7b" ++ String.intercalate ", "
      (c.nodes.entries.map fun e => quoted e.1 ++ ": " ++ e.2.describe) ++ "\x7d"),
    ("pid", toString c.pid.toNat),
    ("root_data_dir", quoted c.rootDir),
    ("healthy", toString c.healthy)]

end ClusterControl
