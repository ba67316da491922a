import ClusterControl.Roster
/-!
# Scopes of calls

A scope bounds how long a caller waits: it ends when its cancel handle is used or when its deadline
passes.  Scopes that are made from another one share its handle and keep its deadline unless theirs
is earlier.
-/

namespace ClusterControl

/-- Why a scope has ended. -/
inductive ScopeEnd
  | cancelled
  | deadlineExceeded
deriving Repr, DecidableEq, Inhabited

/-- The word for an end. -/
def ScopeEnd.word : ScopeEnd → String
  | cancelled => "Cancelled"
  | deadlineExceeded => "DeadlineExceeded"

/-- A scope. -/
structure Scope where
  handle : Nat
  deadline : Option Nat := none
deriving Repr, DecidableEq, Inhabited

namespace Scope

/-- The scope with a deadline; an earlier one that it has stays. -/
def withDeadline (s : Scope) (deadline : Nat) : Scope :=
  { s with deadline := some (match s.deadline with
      | some d => min d deadline
      | none => deadline) }

/-- The scope with a deadline some time from now. -/
def withTimeout (s : Scope) (now ms : Nat) : Scope :=
  s.withDeadline (now + ms)

/-- The deadline has passed. -/
def isOverdue (s : Scope) (now : Nat) : Bool :=
  match s.deadline with
  | some d => d ≤ now
  | none => false

/-- Why the scope has ended, given whether its handle was used. -/
def end? (s : Scope) (used : Bool) (now : Nat) : Option ScopeEnd :=
  if used then some .cancelled
  else if s.isOverdue now then some .deadlineExceeded
  else none

/-- What a call that waits for the scope's end may be told when it looks: when both have happened
by then, either of them. -/
def mayEnd (s : Scope) (used : Bool) (now : Nat) : ScopeEnd → Bool
  | .cancelled => used
  | .deadlineExceeded => s.isOverdue now

end Scope

/-- Handles and the scopes that they cancel, on a clock. -/
structure Scopes where
  now : Nat := 0
  handles : List Bool := []
deriving Repr, DecidableEq, Inhabited

namespace Scopes

/-- A scope with a handle of its own. -/
def create (s : Scopes) : Scope × Scopes :=
  ({ handle := s.handles.length }, { s with handles := s.handles ++ [false] })

/-- A handle was used. -/
def isUsed (s : Scopes) (handle : Nat) : Bool :=
  s.handles.getD handle false

/-- Uses a handle. -/
def cancel (s : Scopes) (handle : Nat) : Scopes :=
  { s with handles := s.handles.set handle true }

/-- Why a scope has ended. -/
def end? (s : Scopes) (scope : Scope) : Option ScopeEnd :=
  scope.end? (s.isUsed scope.handle) s.now

end Scopes
end ClusterControl
