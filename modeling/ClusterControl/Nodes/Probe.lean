import ClusterControl.Failure
/-!
# Probes

A node is asked over HTTP whether it is healthy and for its identifier.  Whatever cannot be had or
cannot be read means that the node is not healthy yet; an identifier, in contrast, must be had.
-/

namespace ClusterControl

/-- What came of an HTTP call. -/
inductive HttpReply
  -- nothing, because the call failed or took too long
  | nothing
  | answer (status : Nat) (body : List UInt8)
deriving Repr, DecidableEq

namespace Probe

/-- The method that asks for the identifier. -/
def infoMethod : String := "info.getNodeID"

/-- A body as a value of some kind. -/
def readBody {α : Type} (read : Source → Reading α) (body : List UInt8) : Option α :=
  (readBytes read body).toOption

/-- Reads whether a node is healthy. -/
def readHealth (s : Source) : Reading Bool := do
  let healthy ← s.record "struct HealthReply" [
    ⟨"healthy", false, fun (r : Option Bool) => r.isSome, fun _ s => do .ok (some (← s.bool))⟩] none
  required "healthy" healthy

/-- The answer says that the node is healthy. -/
def isHealthy : HttpReply → Bool
  | .nothing => false
  | .answer _ body => (readBody readHealth body).getD false

/-- Reads an identifier. -/
def readId (s : Source) : Reading String := do
  let id ← s.record "struct NodeIdResult" [
    ⟨"nodeID", false, fun (r : Option String) => r.isSome, fun _ s => do .ok (some (← s.text))⟩] none
  required "nodeID" id

/-- The fields of an answer to the question for the identifier. -/
structure Info where
  result : Option (Option String) := none
  error : Option (Option Json) := none

/-- Reads an answer to the question for the identifier. -/
def readInfo (s : Source) : Reading Info :=
  s.record "struct InfoReply" [
    ⟨"result", true, fun r => r.result.isSome,
      fun r s => do .ok { r with result := some (← s.option readId) }⟩,
    ⟨"error", true, fun r => r.error.isSome,
      fun r s => do .ok { r with error := some (← s.option Source.toJson) }⟩] {}

/-- A code that stands for a failure. -/
def isFailing (status : Nat) : Bool :=
  400 ≤ status && status < 600

/-- The identifier that an answer gives, from the node at a URI. -/
def nodeId (uri : String) : HttpReply → Outcome String
  | .nothing => .error .http
  | .answer status body =>
    if isFailing status then .error .http
    else
      match readBody readInfo body with
      | none => .error .http
      | some info =>
        let id := (info.result.join).getD ""
        if id ≠ "" then .ok id
        else
          match info.error.join with
          | some cause =>
            .error (.launch (infoMethod ++ " failed at " ++ uri ++ ": " ++ cause.sorted.compact))
          | none => .error (.launch (infoMethod ++ " returned no id at " ++ uri))

end Probe
end ClusterControl
