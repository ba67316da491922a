import ClusterControl.Json.Reading
import ClusterControl.Node
/-!
# Requests

The calls that a control server takes, each as the JSON value it is sent as and as the reader of
that value.  A request is an object with the name of its method and, where the method takes any,
its parameters; it may also be written as a sequence of the two.
-/

namespace ClusterControl

/-- What to start a cluster or a node with, as it is sent. -/
structure StartRequest where
  execPath : String
  -- the subnets to validate, if any are asked for
  subnets : Option String := none
  logLevel : Option String := none
deriving Repr, DecidableEq, Inhabited

/-- The parameters that a request asks for. -/
def StartRequest.params (r : StartRequest) : StartParams where
  execPath := .ofText r.execPath
  subnets := r.subnets.getD ""
  logLevel := r.logLevel

/-- A call. -/
inductive Request
  | ping
  | start (r : StartRequest)
  | health
  | uris
  | status
  | streamStatus (intervalMs : UInt64)
  | removeNode (name : String)
  | restartNode (name : String) (r : StartRequest)
  | stop
deriving Repr, DecidableEq, Inhabited

/-- The methods that a request can name. -/
inductive Method
  | ping
  | start
  | health
  | uris
  | status
  | streamStatus
  | removeNode
  | restartNode
  | stop
deriving Repr, DecidableEq, Inhabited

namespace Method

/-- The word for a method. -/
def word : Method → String
  | ping => "ping"
  | start => "start"
  | health => "health"
  | uris => "uris"
  | status => "status"
  | streamStatus => "stream_status"
  | removeNode => "remove_node"
  | restartNode => "restart_node"
  | stop => "stop"

/-- All methods. -/
def all : List Method :=
  [ping, start, health, uris, status, streamStatus, removeNode, restartNode, stop]

/-- Each method with its word. -/
def known : List (String × Method) :=
  all.map fun m => (m.word, m)

end Method

namespace Request

/-- The method of a request. -/
def method : Request → Method
  | ping => .ping
  | start _ => .start
  | health => .health
  | uris => .uris
  | status => .status
  | streamStatus _ => .streamStatus
  | removeNode _ => .removeNode
  | restartNode _ _ => .restartNode
  | stop => .stop

end Request

/-! ## Writing -/

/-- The member for an optional text; none if there is no text. -/
def optionalMember (key : String) : Option String → List (String × Json)
  | none => []
  | some s => [(key, .str s)]

/-- What to start with as a value. -/
def StartRequest.toJson (r : StartRequest) : Json :=
  .obj ([("exec_path", .str r.execPath)] ++ optionalMember "whitelisted_subnets" r.subnets ++
    optionalMember "log_level" r.logLevel)

namespace Request

/-- The parameters of a request as a value, if its method takes any. -/
def paramsJson? : Request → Option Json
  | start r => some r.toJson
  | streamStatus intervalMs => some (.obj [("push_interval_ms", .num intervalMs.toNat)])
  | removeNode name => some (.obj [("name", .str name)])
  | restartNode name r => some (.obj [("name", .str name), ("start", r.toJson)])
  | _ => none

/-- A request as a value. -/
def toJson (r : Request) : Json :=
  .obj (("method", .str r.method.word) ::
    match r.paramsJson? with
    | none => []
    | some params => [("params", params)])

/-- A request as the text that is sent. -/
def frame (r : Request) : String :=
  r.toJson.compact

end Request

/-! ## Reading -/

/-- The fields of a start request as far as they are read. -/
structure StartFields where
  execPath : Option String := none
  subnets : Option (Option String) := none
  logLevel : Option (Option String) := none

/-- Reads what to start with. -/
def StartRequest.read (s : Source) : Reading StartRequest := do
  let r ← s.record "struct StartRequest" [
      ⟨"exec_path", false, fun r => r.execPath.isSome,
        fun r s => do .ok { r with execPath := some (← s.text) }⟩,
      ⟨"whitelisted_subnets", true, fun r => r.subnets.isSome,
        fun r s => do .ok { r with subnets := some (← s.option Source.text) }⟩,
      ⟨"log_level", true, fun r => r.logLevel.isSome,
        fun r s => do .ok { r with logLevel := some (← s.option Source.text) }⟩]
    ({} : StartFields)
  let execPath ← required "exec_path" r.execPath
  .ok { execPath := execPath, subnets := r.subnets.getD none, logLevel := r.logLevel.getD none }

/-- The greatest interval. -/
def maxInterval : Nat := UInt64.size - 1

/-- Reads the interval of a stream. -/
def readInterval (s : Source) : Reading UInt64 := do
  let r ← s.record "struct StreamStatusRequest" [
      ⟨"push_interval_ms", false, fun (r : Option Nat) => r.isSome,
        fun _ s => do .ok (some (← s.unsigned maxInterval "u64"))⟩] none
  .ok (← required "push_interval_ms" r).toUInt64

/-- Reads the name of the node to remove. -/
def readNodeName (s : Source) : Reading String := do
  let r ← s.record "struct RemoveNodeRequest" [
      ⟨"name", false, fun (r : Option String) => r.isSome,
        fun _ s => do .ok (some (← s.text))⟩] none
  required "name" r

/-- The fields of a restart as far as they are read. -/
structure RestartFields where
  name : Option String := none
  start : Option StartRequest := none

/-- Reads which node to launch anew, and with what. -/
def readRestart (s : Source) : Reading (String × StartRequest) := do
  let r ← s.record "struct RestartNodeRequest" [
      ⟨"name", false, fun r => r.name.isSome,
        fun r s => do .ok { r with name := some (← s.text) }⟩,
      ⟨"start", false, fun r => r.start.isSome,
        fun r s => do .ok { r with start := some (← StartRequest.read s) }⟩]
    ({} : RestartFields)
  let name ← required "name" r.name
  let start ← required "start" r.start
  .ok (name, start)

namespace Request

/-- What a reader expects as the parameters of a method that takes none. -/
def noParams (name : String) : String :=
  "unit variant Request::" ++ name

/-- Reads the parameters of a method. -/
def readParams : Method → Source → Reading Request
  | .ping, s => do s.unit (noParams "Ping"); .ok ping
  | .start, s => do .ok (start (← StartRequest.read s))
  | .health, s => do s.unit (noParams "Health"); .ok health
  | .uris, s => do s.unit (noParams "Uris"); .ok uris
  | .status, s => do s.unit (noParams "Status"); .ok status
  | .streamStatus, s => do .ok (streamStatus (← readInterval s))
  | .removeNode, s => do .ok (removeNode (← readNodeName s))
  | .restartNode, s => do
    let (name, r) ← readRestart s
    .ok (restartNode name r)
  | .stop, s => do s.unit (noParams "Stop"); .ok stop

/-- The request of a method that is named without parameters. -/
def withoutParams : Method → Reading Request
  | .ping => .ok ping
  | .health => .ok health
  | .uris => .ok uris
  | .status => .ok status
  | .stop => .ok stop
  | _ => (ShapeError.missingField "params").raise

/-- A request as far as its members are read. -/
inductive Progress
  | nothing
  | named (m : Method)
  -- the parameters alone, set aside until the method is known
  | given (params : Json)
  | complete (r : Request)

/-- Reads one member. -/
def readMember (p : Progress) (key : String) (s : Source) : Reading Progress :=
  if key = "method" then
    match p with
    | .nothing => do .ok (.named (← s.variant Method.known))
    | .given params => do .ok (.complete (← readParams (← s.variant Method.known) (.value params)))
    | _ => (ShapeError.duplicateField "method").raise
  else if key = "params" then
    match p with
    | .nothing => do .ok (.given (← s.toJson))
    | .named m => do .ok (.complete (← readParams m s))
    | _ => (ShapeError.duplicateField "params").raise
  else
    match s with
    | .document d _ => do
      d.skip
      .ok p
    | .value _ => .ok p

/-- The request once all members are read. -/
def Progress.finish : Progress → Reading Request
  | nothing => (ShapeError.missingField "method").raise
  | given _ => (ShapeError.missingField "method").raise
  | named m => withoutParams m
  | complete r => .ok r

/-- How a message names a request. -/
def expected : String := "adjacently tagged enum Request"

/-- Reads a sequence of a method and its parameters. -/
def readPair (ended : Reading Unit) : List Source → Reading (Request × List Source)
  | [] => do
    ended
    (ShapeError.wrongLength 0 expected).raise
  | [m] => do
    let _ ← m.tag Method.known
    ended
    (ShapeError.wrongLength 1 expected).raise
  | m :: params :: rest => do
    let r ← readParams (← m.tag Method.known) params
    .ok (r, rest)

/-- Reads a request. -/
def read (s : Source) : Reading Request :=
  match s with
  | .document (.members ms close) depth => do
    checkDepth depth
    let p ← ms.foldlM (fun p m => do
      let key ← readKey m.1
      readMember p key (.document m.2 (depth + 1))) .nothing
    checkClose close
    p.finish
  | .document (.items xs close) depth => do
    checkDepth depth
    let (r, rest) ← readPair (checkClose close) (xs.map fun x => .document x (depth + 1))
    if rest.isEmpty then checkClose close else Fault.malformed.raise
    .ok r
  | .value (.obj ms) => do
    let p ← ms.foldlM (fun p m => readMember p m.1 (.value m.2)) .nothing
    p.finish
  | .value (.arr xs) => do
    let (r, rest) ← readPair (.ok ()) (xs.map .value)
    if rest.isEmpty then .ok r
    else (ShapeError.wrongLength xs.length "fewer elements in array").raise
  | other => other.wrongType expected

/-- The request that a text stands for. -/
def parse (text : String) : Reading Request :=
  readText read text

end Request
end ClusterControl
