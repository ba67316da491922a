/-!
# Latches

An action that runs at most once, for all callers.  The first caller finds the latch idle and claims
it; from then on two tasks of the latch's own carry the action: one runs it, the other one waits for
it and publishes its outcome.  So a caller that leaves, even the first one, leaves nobody stranded.
-/

namespace ClusterControl

/-- How far a latch is, as its callers see it. -/
inductive LatchPhase (α : Type)
  | idle
  | running
  | done (value : α)
  | crashed
deriving Repr, DecidableEq, Inhabited

/-- How far the task is that publishes the outcome. -/
inductive KeeperPhase
  | absent
  | spawned
  | waiting
  | finished
deriving Repr, DecidableEq, Inhabited

/-- How far the action is. -/
inductive ActionPhase (α : Type)
  | absent
  | spawned
  | running
  | returned (value : α)
  | crashed
deriving Repr, DecidableEq, Inhabited

/-- A latch with its two tasks. -/
structure Latch (α : Type) where
  phase : LatchPhase α := .idle
  keeper : KeeperPhase := .absent
  action : ActionPhase α := .absent
deriving Repr, DecidableEq, Inhabited

namespace Latch

variable {α : Type}

/-- Somebody has called. -/
def isClaimed (l : Latch α) : Bool :=
  match l.phase with
  | .idle => false
  | _ => true

/-- The action has ended. -/
def isFinished (l : Latch α) : Bool :=
  match l.phase with
  | .done _ => true
  | .crashed => true
  | _ => false

/-- What the callers get, once there is something to get: the action's value, or nothing if it broke
down. -/
def outcome? (l : Latch α) : Option (Option α) :=
  match l.phase with
  | .done value => some (some value)
  | .crashed => some none
  | _ => none

/-- A caller claims the latch if it is idle. -/
def claim (l : Latch α) : Latch α :=
  match l.phase with
  | .idle => { l with phase := .running, keeper := .spawned }
  | _ => l

/-- A caller takes the idle latch for itself; it has the keeper to set off yet. -/
def occupy (l : Latch α) : Latch α :=
  match l.phase with
  | .idle => { l with phase := .running }
  | _ => l

/-- The keeper is set off. -/
def sendKeeper (l : Latch α) : Latch α :=
  { l with keeper := .spawned }

/-- To claim an idle latch is to take it and to set off the keeper. -/
theorem claim_eq {l : Latch α} (h : l.isClaimed = false) : l.claim = l.occupy.sendKeeper := by
  unfold isClaimed at h
  unfold claim occupy sendKeeper
  split at h
  · rfl
  · simp at h

/-- The keeper goes on: it sets off the action, or publishes how it ended. -/
def keep (l : Latch α) : Latch α :=
  match l.keeper with
  | .spawned => { l with keeper := .waiting, action := .spawned }
  | .waiting =>
    match l.action with
    | .returned value => { l with phase := .done value, keeper := .finished }
    | .crashed => { l with phase := .crashed, keeper := .finished }
    | _ => l
  | _ => l

/-- The keeper can go on. -/
def keeperReady (l : Latch α) : Bool :=
  match l.keeper with
  | .spawned => true
  | .waiting =>
    match l.action with
    | .returned _ => true
    | .crashed => true
    | _ => false
  | _ => false

/-- The action begins. -/
def begin (l : Latch α) : Latch α :=
  match l.action with
  | .spawned => { l with action := .running }
  | _ => l

/-- The action ends: with a value, or by breaking down. -/
def finish (l : Latch α) (outcome : Option α) : Latch α :=
  match l.action with
  | .running =>
    { l with action := match outcome with
        | some value => .returned value
        | none => .crashed }
  | _ => l

end Latch
end ClusterControl
