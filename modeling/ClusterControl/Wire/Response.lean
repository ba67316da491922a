import ClusterControl.Failure
import ClusterControl.Wire.ClusterInfo
/-!
# Responses

The answers of a control server, each as the JSON value it is sent as and as the reader of that
value.  A response is an object whose type stands among the members of its content; it may also be
written as a sequence that begins with the type.
-/

namespace ClusterControl

/-- An answer. -/
inductive Response
  | ping (pid : UInt32)
  | cluster (info : ClusterInfo)
  | uris (uris : List String)
  | error (status : Status)
deriving Repr, DecidableEq

/-- The kinds of answers. -/
inductive ResponseKind
  | ping
  | cluster
  | uris
  | error
deriving Repr, DecidableEq

namespace ResponseKind

/-- The word for a kind. -/
def word : ResponseKind → String
  | ping => "ping"
  | cluster => "cluster"
  | uris => "uris"
  | error => "error"

/-- Each kind with its word. -/
def known : List (String × ResponseKind) :=
  [ping, cluster, uris, error].map fun k => (k.word, k)

end ResponseKind

/-- A status as a value. -/
def Status.toJson (s : Status) : Json :=
  .obj [("code", .str s.code.word), ("message", .str s.message)]

namespace Response

/-- The kind of an answer. -/
def kind : Response → ResponseKind
  | ping _ => .ping
  | cluster _ => .cluster
  | uris _ => .uris
  | error _ => .error

/-- The members of an answer beside its type. -/
def members : Response → List (String × Json)
  | ping pid => [("pid", .num pid.toNat)]
  | cluster info => [("cluster_info", info.toJson)]
  | uris list => [("uris", .arr (list.map .str))]
  | error status => [("code", .str status.code.word), ("message", .str status.message)]

/-- An answer as a value. -/
def toJson (r : Response) : Json :=
  .obj (("type", .str r.kind.word) :: r.members)

/-- An answer as the text that is sent. -/
def frame (r : Response) : String :=
  r.toJson.compact

end Response

/-! ## Reading -/

/-- The fields of a status as far as they are read. -/
structure StatusFields where
  code : Option Code := none
  message : Option String := none

/-- Reads a status. -/
def Status.read (s : Source) : Reading Status := do
  let r ← s.record "struct Status" [
      ⟨"code", false, fun r => r.code.isSome,
        fun r s => do .ok { r with code := some (← s.variant (Code.all.map fun c => (c.word, c))) }⟩,
      ⟨"message", false, fun r => r.message.isSome,
        fun r s => do .ok { r with message := some (← s.text) }⟩]
    ({} : StatusFields)
  let code ← required "code" r.code
  let message ← required "message" r.message
  .ok ⟨code, message⟩

namespace Response

/-- Reads the content of an answer that has a single field. -/
def readField {α : Type} (what field : String) (read : Source → Reading α) (s : Source) :
    Reading α := do
  let r ← s.record ("struct variant Response::" ++ what) [
      ⟨field, false, fun (r : Option α) => r.isSome, fun _ s => do .ok (some (← read s))⟩] none
  required field r

/-- Reads the content of an answer. -/
def readContent (s : Source) : ResponseKind → Reading Response
  | .ping => do .ok (ping (← readField "Ping" "pid" readPid s))
  | .cluster => do .ok (cluster (← readField "Cluster" "cluster_info" ClusterInfo.read s))
  | .uris => do .ok (uris (← readField "Uris" "uris" (Source.list Source.text) s))
  | .error => do .ok (error (← Status.read s))

/-- Reads one member: the type at once, and anything else to be read once the type is known. -/
def readMember (p : Option ResponseKind × List (String × Json)) (key : String) (s : Source) :
    Reading (Option ResponseKind × List (String × Json)) :=
  if key = "type" then
    if p.1.isSome then (ShapeError.duplicateField "type").raise
    else do .ok (some (← s.tag ResponseKind.known), p.2)
  else do .ok (p.1, p.2 ++ [(key, ← s.toJson)])

/-- How a message names an answer. -/
def expected : String := "internally tagged enum Response"

/-- Reads a sequence that begins with the type. -/
def readSequence (ended : Reading Unit) : List Source → Reading Response
  | [] => do
    ended
    (ShapeError.missingField "type").raise
  | t :: rest => do
    let kind ← t.tag ResponseKind.known
    let items ← rest.mapM Source.toJson
    ended
    readContent (.value (.arr items)) kind

/-- Reads an answer. -/
def read (s : Source) : Reading Response :=
  match s with
  | .document (.members ms close) depth => do
    checkDepth depth
    let (kind, rest) ← ms.foldlM (fun p m => do
      let key ← readKey m.1
      readMember p key (.document m.2 (depth + 1))) (none, [])
    checkClose close
    let kind ← required "type" kind
    readContent (.value (.obj rest)) kind
  | .document (.items xs close) depth => do
    checkDepth depth
    readSequence (checkClose close) (xs.map fun x => .document x (depth + 1))
  | .value (.obj ms) => do
    let (kind, rest) ← ms.foldlM (fun p m => readMember p m.1 (.value m.2)) (none, [])
    let kind ← required "type" kind
    readContent (.value (.obj rest)) kind
  | .value (.arr xs) => readSequence (.ok ()) (xs.map .value)
  | other => other.wrongType expected

/-- The answer that a text stands for. -/
def parse (text : String) : Reading Response :=
  readText read text

/-! ## What a caller wanted -/

/-- An answer in a message. -/
def describe : Response → String
  | ping pid => braced "Ping" [("pid", toString pid.toNat)]
  | cluster info => braced "Cluster" [("cluster_info", info.describe)]
  | uris list => braced "Uris" [("uris", bracketed (list.map quoted))]
  | error status => "Error(" ++ braced "Status" [("code", status.code.name),
      ("message", quoted status.message)] ++ ")"

/-- Complains about an answer to another question. -/
def unexpected {α : Type} (wanted : String) (got : Response) : Outcome α :=
  .error (.internal ("expected " ++ wanted ++ " response, got " ++ got.describe))

/-- The cluster that an answer reports. -/
def cluster? : Response → Outcome ClusterInfo
  | cluster info => .ok info
  | error status => .error status.failure
  | other => unexpected "cluster" other

/-- The URIs that an answer reports. -/
def uris? : Response → Outcome (List String)
  | uris list => .ok list
  | error status => .error status.failure
  | other => unexpected "uris" other

/-- The process that an answer reports. -/
def pid? : Response → Outcome UInt32
  | ping pid => .ok pid
  | error status => .error status.failure
  | other => unexpected "ping" other

end Response
end ClusterControl
