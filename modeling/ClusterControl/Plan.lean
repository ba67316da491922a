import ClusterControl.Failure
import ClusterControl.Node
import ClusterControl.Text.Blank
/-!
# Plans

How the nodes of a cluster are to be run: their names, directories, ports and configuration files,
laid out from a few settings before anything is launched.  A node that is launched anew keeps its
name, its directories and its ports.
-/

namespace ClusterControl

/-- The log level of nodes for which none is asked. -/
def defaultLogLevel : String := "INFO"

/-- A log level as it is written in a configuration file. -/
def normalLogLevel (level : String) : String :=
  let level := trimText level
  if level.isEmpty then defaultLogLevel else upperAscii level

/-- What a node's configuration file says. -/
structure NodeFile where
  logLevel : String
  logDir : Path
  dbDir : Path
  subnets : String
  httpPort : Nat
  -- the port that it talks to its peers on
  stakingPort : Nat
deriving Repr, DecidableEq

namespace NodeFile

/-- The content of a configuration file as a value: what differs between nodes, and what every node
of a local cluster needs in order to be reachable, talkative and quick. -/
def toJson (f : NodeFile) : Json :=
  .table [
    ("network-peer-list-gossip-frequency", .str "250ms"),
    ("network-max-reconnect-delay", .str "1s"),
    ("public-ip", .str "127.0.0.1"),
    ("health-check-frequency", .str "2s"),
    ("api-admin-enabled", .bool true),
    ("api-ipcs-enabled", .bool true),
    ("index-enabled", .bool true),
    ("log-display-level", .str "INFO"),
    ("log-level", .str f.logLevel),
    ("log-dir", .str f.logDir.text),
    ("db-dir", .str f.dbDir.text),
    ("whitelisted-subnets", .str f.subnets),
    ("http-port", .num f.httpPort),
    ("staking-port", .num f.stakingPort)]

/-- The content of a configuration file. -/
def render (f : NodeFile) : List UInt8 :=
  Utf8.encodeChars (Json.writeIndented 0 f.toJson)

end NodeFile

/-- How the nodes of a cluster are to be run. -/
structure Plan where
  execPath : Path
  rootDir : Path
  subnets : String := ""
  -- the log level as it is written in a configuration file
  logLevel : String := defaultLogLevel
  nodeCount : Nat := 5
  basePort : Nat := 9650
deriving Repr, DecidableEq

namespace Plan

/-- The plan that a caller's parameters ask for. -/
def ofParams (params : StartParams) (rootDir : Path) : Plan where
  execPath := params.execPath
  rootDir := rootDir
  subnets := params.subnets
  logLevel := normalLogLevel (params.logLevel.getD "")

/-- The greatest port. -/
def maxPort : Nat := 65535

/-- The name of the node with this index. -/
def nodeName (index : Nat) : String :=
  "node" ++ toString (index + 1)

/-- The port of the HTTP interface of the node with this index, if there are two ports left for it;
the next one is for its peers. -/
def httpPort (p : Plan) (index : Nat) : Outcome Nat :=
  let port := p.basePort + 2 * index
  if port + 1 ≤ maxPort then .ok port
  else .error (.config (.invalidValue "base_http_port"
    ("no room for " ++ toString p.nodeCount ++ " nodes")))

/-- The HTTP ports of `left` nodes from the one with this index on, up to the first node for which
there are no ports. -/
def httpPortsFrom (p : Plan) : Nat → Nat → Outcome (List Nat)
  | 0, _ => .ok []
  | left + 1, index =>
    match p.httpPort index with
    | .error e => .error e
    | .ok port => (p.httpPortsFrom left (index + 1)).map (port :: ·)

/-- The directory of the node with this index. -/
def nodeDir (p : Plan) (index : Nat) : Path :=
  p.rootDir.join (nodeName index)

/-- The configuration of the node with this index and this HTTP port. -/
def node (p : Plan) (httpPort index : Nat) : NodeConfig where
  name := nodeName index
  execPath := p.execPath
  logDir := (p.nodeDir index).join "log"
  dbDir := (p.nodeDir index).join "db-dir"
  subnets := p.subnets
  httpPort := httpPort
  stakingPort := httpPort + 1
  payload := NodeFile.render {
    logLevel := p.logLevel
    logDir := (p.nodeDir index).join "log"
    dbDir := (p.nodeDir index).join "db-dir"
    subnets := p.subnets
    httpPort := httpPort
    stakingPort := httpPort + 1 }

/-- The configurations of all nodes, in launch order. -/
def build (p : Plan) : Outcome (List NodeConfig) :=
  if p.execPath.isEmpty then .error (.config (.missingField "exec_path"))
  else if p.nodeCount = 0 then
    .error (.config (.invalidValue "node_count" "must be greater than 0"))
  else (p.httpPortsFrom p.nodeCount 0).map fun ports => ports.mapIdx fun i port => p.node port i

end Plan

/-- The configuration of a node that is launched anew.  Without an executable it keeps its own. -/
def NodeConfig.relaunch (previous : NodeConfig) (params : StartParams) : NodeConfig where
  name := previous.name
  execPath := if params.execPath.isEmpty then previous.execPath else params.execPath
  logDir := previous.logDir
  dbDir := previous.dbDir
  subnets := params.subnets
  httpPort := previous.httpPort
  stakingPort := previous.stakingPort
  payload := NodeFile.render {
    logLevel := normalLogLevel (params.logLevel.getD "")
    logDir := previous.logDir
    dbDir := previous.dbDir
    subnets := params.subnets
    httpPort := previous.httpPort
    stakingPort := previous.stakingPort }

end ClusterControl
