/-!
# The life of a cluster

A cluster is planned, launched, healthy or failed, and stopped.  Its state moves along eight arrows
and never back.
-/

namespace ClusterControl

/-- The state of a cluster. -/
inductive Lifecycle
  | created
  -- its processes are being launched or have not all reported healthy yet
  | launching
  | healthy
  | stopping
  | stopped
  | failed
deriving Repr, DecidableEq, Inhabited

namespace Lifecycle

/-- All states. -/
def all : List Lifecycle := [created, launching, healthy, stopping, stopped, failed]

/-- The word for a state. -/
def word : Lifecycle → String
  | created => "created"
  | launching => "launching"
  | healthy => "healthy"
  | stopping => "stopping"
  | stopped => "stopped"
  | failed => "failed"

/-- The state that a word stands for. -/
def ofWord? (s : String) : Option Lifecycle :=
  all.find? fun state => state.word = s

/-- The arrows between states. -/
def canAdvance : Lifecycle → Lifecycle → Bool
  | created, launching => true
  | created, stopping => true
  | launching, healthy => true
  | launching, failed => true
  | launching, stopping => true
  | healthy, stopping => true
  | failed, stopping => true
  | stopping, stopped => true
  | _, _ => false

/-- The state after an attempt to move on: unchanged if there is no such arrow. -/
def advance (state next : Lifecycle) : Lifecycle :=
  if state.canAdvance next then next else state

/-- A stop was requested. -/
def isStopping : Lifecycle → Bool
  | stopping => true
  | stopped => true
  | _ => false

/-- How far along a state is. -/
def rank : Lifecycle → Nat
  | created => 0
  | launching => 1
  | healthy => 2
  | failed => 2
  | stopping => 3
  | stopped => 4

/-- Every arrow leads further along. -/
theorem rank_lt_of_canAdvance {state next : Lifecycle} (h : state.canAdvance next = true) :
    state.rank < next.rank := by
  cases state <;> cases next <;> first | decide | simp [canAdvance] at h

end Lifecycle
end ClusterControl
