import ClusterControl.Net.MediaType
import ClusterControl.Server.Api
/-!
# The gateway

The operations of a control server for callers that speak plain HTTP.  Each operation that gives one
response has a route; what it takes stands in the body of the call, as JSON.  A call that does not
get as far as an operation is refused with a code and no more.
-/

namespace ClusterControl

/-- An HTTP call. -/
structure HttpCall where
  method : String
  -- the address, with whatever is asked of it
  target : String
  -- what kind of body it says it has
  contentType : Option String
  body : String
deriving Repr, DecidableEq

/-- Why a call is refused before it gets to an operation. -/
inductive Refusal
  | noRoute
  | wrongMethod
  -- the body is not said to be JSON
  | wrongKind
  | tooLong
  | malformed
  -- the body is JSON of the wrong shape
  | wrongShape
deriving Repr, DecidableEq

/-- The code of a refusal. -/
def Refusal.httpStatus : Refusal → Nat
  | noRoute => 404
  | wrongMethod => 405
  | wrongKind => 415
  | tooLong => 413
  | malformed => 400
  | wrongShape => 422

namespace Gateway

/-- The methods that have routes, with their addresses. -/
def routes : List (String × Method) := [
  ("/v1/ping", .ping),
  ("/v1/control/start", .start),
  ("/v1/control/health", .health),
  ("/v1/control/uris", .uris),
  ("/v1/control/status", .status),
  ("/v1/control/removenode", .removeNode),
  ("/v1/control/restartnode", .restartNode),
  ("/v1/control/stop", .stop)]

/-- An address without what is asked of it. -/
def pathOf (target : String) : String :=
  String.ofList (target.toList.takeWhile fun c => c ≠ '?' && c ≠ '#')

/-- The greatest length of a body. -/
def maxBody : Nat := 2097152

/-- Reads a body. -/
def readBody {α : Type} (read : Source → Reading α) (call : HttpCall) : Except Refusal α :=
  if !(call.contentType.bind MediaType.parse?).any MediaType.isJson then .error .wrongKind
  else if maxBody < call.body.utf8ByteSize then .error .tooLong
  else
    match readHead read call.body with
    | .ok v => .ok v
    | .error (.fault _) => .error .malformed
    | .error (.shape _) => .error .wrongShape

/-- The request of a method, with what it takes read from the body. -/
def requestFor (call : HttpCall) : Method → Except Refusal Request
  | .ping => .ok .ping
  | .start => (readBody StartRequest.read call).map .start
  | .health => .ok .health
  | .uris => .ok .uris
  | .status => .ok .status
  | .streamStatus => .error .noRoute
  | .removeNode => (readBody readNodeName call).map .removeNode
  | .restartNode => (readBody readRestart call).map fun (name, r) => .restartNode name r
  | .stop => .ok .stop

/-- The request that a call makes. -/
def request (call : HttpCall) : Except Refusal Request :=
  match routes.lookup (pathOf call.target) with
  | none => .error .noRoute
  | some method => if call.method = "POST" then requestFor call method else .error .wrongMethod

/-- The code that goes with a response. -/
def httpStatus : Response → Nat
  | .error status => status.code.httpStatus
  | _ => 200

end Gateway

/-- What comes back to the caller of the gateway. -/
inductive HttpAnswer
  | refused (why : Refusal)
  | answered (response : Response)
deriving Repr, DecidableEq

namespace HttpAnswer

/-- The code of an answer. -/
def httpStatus : HttpAnswer → Nat
  | refused why => why.httpStatus
  | answered response => Gateway.httpStatus response

/-- The response that an answer carries; a refusal carries none. -/
def response? : HttpAnswer → Option Response
  | refused _ => none
  | answered response => some response

/-- The body of an answer, if it is JSON. -/
def body? (a : HttpAnswer) : Option String :=
  a.response?.map Response.frame

end HttpAnswer

/-- The answer to a call. -/
def Api.answer {m : Type → Type} [Functor m] [Pure m] (api : Api m) (call : HttpCall) :
    m HttpAnswer :=
  match Gateway.request call with
  | .error why => pure (.refused why)
  | .ok request => HttpAnswer.answered <$> api.dispatch request

end ClusterControl
