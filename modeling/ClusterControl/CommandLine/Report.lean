import ClusterControl.CommandLine.Terminal
import ClusterControl.Wire.ClusterInfo
/-!
# Reports of a cluster

How a cluster is shown: its state line by line, with a table of its nodes; or, in the course of a
stream, its state on one line.  For a program it is one object.
-/

namespace ClusterControl

/-- A table of texts, drawn with plain characters. -/
structure Grid where
  -- the rows, the heads of the columns first; all are equally long
  rows : List (List String)
deriving Repr, DecidableEq

namespace Grid

/-- The width of each column: that of its longest text. -/
def widths (g : Grid) : List Nat :=
  g.rows.foldl (fun ws row => match ws with
    | [] => row.map String.length
    | ws => List.zipWith (fun w cell => max w cell.length) ws row) []

/-- The line above and below each row. -/
def rule (ws : List Nat) : String :=
  "+" ++ String.join (ws.map fun w => String.ofList (List.replicate (w + 2) '-') ++ "+")

/-- A row. -/
def row (ws : List Nat) (cells : List String) : String :=
  "|" ++ String.join (List.zipWith (fun w cell => " " ++ padded w cell ++ " |") ws cells)

/-- The text of a table. -/
def text (g : Grid) : String :=
  let ws := g.widths
  "\n".intercalate (rule ws :: (g.rows.map fun cells => [row ws cells, rule ws]).flatten)

end Grid

namespace ClusterInfo

/-- The heads of the columns of a table of nodes. -/
def columns : List String := ["Node", "URI", "ID", "Log Dir"]

/-- The nodes, in launch order. -/
def listed (info : ClusterInfo) : List NodeInfo :=
  info.names.filterMap info.nodes.get?

/-- The table of the nodes. -/
def grid (info : ClusterInfo) : Grid :=
  ⟨columns :: info.listed.map fun n => [n.name, n.uri, n.id, n.logDir]⟩

/-- The number of nodes that have a URI. -/
def readyCount (info : ClusterInfo) : Nat :=
  (info.nodes.values.filter fun n => n.uri ≠ "").length

end ClusterInfo

namespace Terminal

/-- Whether a cluster is healthy, in words. -/
def health (t : Terminal) (healthy : Bool) : String :=
  if healthy then t.highlight "healthy" else t.muted "not healthy"

/-- Prints a cluster. -/
def cluster (t : Terminal) (info : ClusterInfo) : Printed :=
  if t.json then jsonLine "cluster" info.toJson
  else
    t.field "Healthy" (t.health info.healthy) ++
      t.field "Pid" (toString info.pid.toNat) ++
      t.field "Root" info.rootDir ++
      (if info.listed.isEmpty then {} else t.block info.grid.text)

/-- Prints a cluster in the course of a stream. -/
def progress (t : Terminal) (info : ClusterInfo) : Printed :=
  if t.json then jsonLine "cluster" info.toJson
  else t.field "Status" (t.health info.healthy ++ " " ++ toString info.readyCount ++ "/" ++
    toString info.names.length ++ " nodes ready")

end Terminal
end ClusterControl
