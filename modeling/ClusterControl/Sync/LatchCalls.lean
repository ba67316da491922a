import ClusterControl.Roster
import ClusterControl.Sync.Latch
/-!
# Calls at a latch

Every call brings an action of its own; the action of the call that claims the latch is the one that
runs.
-/

namespace ClusterControl

/-- How far a call at a latch is. -/
inductive LatchCall (α : Type)
  -- it has not looked at the latch yet
  | fresh
  -- it has claimed the latch, and has the keeper to set off yet
  | claiming
  | waiting
  | returned (outcome : Option α)
deriving Repr, DecidableEq, Inhabited

/-- A latch with its calls. -/
structure LatchCalls (α : Type) where
  latch : Latch α := {}
  claimer : Option Nat := none
  calls : Roster (LatchCall α) := {}
deriving Repr, DecidableEq, Inhabited

namespace LatchCalls

variable {α : Type}

/-- A call comes in. -/
def call (l : LatchCalls α) (n : Nat) : LatchCalls α :=
  { l with calls := l.calls.set n .fresh }

/-- One step of a call: the first one that looks at the latch claims it, and each one gets the outcome
once there is one. -/
def advance (l : LatchCalls α) (n : Nat) : LatchCalls α :=
  match l.calls.get? n with
  | some .fresh =>
    if l.latch.isClaimed then { l with calls := l.calls.set n .waiting }
    else { latch := l.latch.occupy, claimer := some n, calls := l.calls.set n .claiming }
  | some .claiming =>
    { l with latch := l.latch.sendKeeper, calls := l.calls.set n .waiting }
  | some .waiting =>
    match l.latch.outcome? with
    | some outcome => { l with calls := l.calls.set n (.returned outcome) }
    | none => l
  | _ => l

/-- A call can take a step. -/
def canAdvance (l : LatchCalls α) (n : Nat) : Bool :=
  match l.calls.get? n with
  | some .fresh => true
  | some .claiming => true
  | some .waiting => l.latch.isFinished
  | _ => false

/-- The steps that a call takes in a row at most. -/
def stride : Nat := 3

/-- A call takes steps until it has to wait or has come to its end. -/
def poll (l : LatchCalls α) (n : Nat) : LatchCalls α :=
  (List.range stride).foldl (fun l _ => l.advance n) l

/-- A caller goes away. -/
def leave (l : LatchCalls α) (n : Nat) : LatchCalls α :=
  { l with calls := l.calls.erase n }

end LatchCalls
end ClusterControl
