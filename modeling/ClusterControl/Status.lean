/-!
# Statuses

The code and the message that tell a remote caller why a call failed.
-/

namespace ClusterControl

/-- Why a call failed, for a program. -/
inductive Code
  | canceled
  | unknown
  | invalidArgument
  | deadlineExceeded
  | notFound
  | alreadyExists
  -- the system is not in a state for it
  | failedPrecondition
  -- it was given up for the sake of another call
  | aborted
  | internal
  | unavailable
deriving Repr, DecidableEq, Inhabited

namespace Code

/-- All codes. -/
def all : List Code :=
  [canceled, unknown, invalidArgument, deadlineExceeded, notFound, alreadyExists,
    failedPrecondition, aborted, internal, unavailable]

/-- The word for a code in a frame. -/
def word : Code → String
  | canceled => "canceled"
  | unknown => "unknown"
  | invalidArgument => "invalid_argument"
  | deadlineExceeded => "deadline_exceeded"
  | notFound => "not_found"
  | alreadyExists => "already_exists"
  | failedPrecondition => "failed_precondition"
  | aborted => "aborted"
  | internal => "internal"
  | unavailable => "unavailable"

/-- The name of a code in a message. -/
def name : Code → String
  | canceled => "Canceled"
  | unknown => "Unknown"
  | invalidArgument => "InvalidArgument"
  | deadlineExceeded => "DeadlineExceeded"
  | notFound => "NotFound"
  | alreadyExists => "AlreadyExists"
  | failedPrecondition => "FailedPrecondition"
  | aborted => "Aborted"
  | internal => "Internal"
  | unavailable => "Unavailable"

/-- The code that a word stands for. -/
def ofWord? (s : String) : Option Code :=
  all.find? fun c => c.word = s

/-- The answer code by which a gateway tells the failure. -/
def httpStatus : Code → Nat
  | invalidArgument => 400
  | failedPrecondition => 400
  | notFound => 404
  | alreadyExists => 409
  | aborted => 409
  | deadlineExceeded => 504
  | unavailable => 503
  | canceled => 499
  | unknown => 500
  | internal => 500

end Code

/-- Why a call failed, for a program and for a reader. -/
structure Status where
  code : Code
  message : String
deriving Repr, DecidableEq, Inhabited

/-- A status in a message. -/
def Status.render (s : Status) : String :=
  "rpc error: code = " ++ s.code.name ++ " desc = " ++ s.message

end ClusterControl
