import ClusterControl.Rehearsal.Callers
import ClusterControl.Sync.LatchCalls
/-!
# Rehearsing a latch

A latch on a clock.  Each call's action notes its value, takes some time, and then gives the value
or breaks down.
-/

namespace ClusterControl

/-- An action. -/
structure TimedAction where
  value : Int
  ms : Nat
  breaks : Bool
deriving Repr, DecidableEq, Inhabited

/-- A latch on a clock. -/
structure LatchShow where
  now : Nat := 0
  hall : LatchCalls Int := {}
  actions : Roster TimedAction := {}
  due : Option Nat := none
  ran : List Int := []

/-- A task at a latch. -/
inductive LatchTask
  | call (n : Nat)
  | keeper
  | action
deriving Repr, DecidableEq

namespace LatchShow

/-- The action of the call that claimed the latch. -/
def action (l : LatchShow) : TimedAction :=
  ((l.hall.claimer.bind l.actions.get?)).getD default

/-- Changes the latch. -/
def onLatch (l : LatchShow) (f : Latch Int → Latch Int) : LatchShow :=
  { l with hall := { l.hall with latch := f l.hall.latch } }

/-- The action ends, if its time has come. -/
def checkAction (l : LatchShow) : LatchShow :=
  match l.due with
  | some due =>
    if due ≤ l.now then
      { l.onLatch fun latch => latch.finish (if l.action.breaks then none else some l.action.value)
        with due := none }
    else l
  | none => l

/-- A task goes on. -/
def poll : LatchTask → LatchShow → LatchShow
  | .call n, l => { l with hall := l.hall.poll n }
  | .keeper, l => l.onLatch Latch.keep
  | .action, l =>
    let l := if l.hall.latch.action = .spawned then
        { l.onLatch Latch.begin with
          due := some (l.now + l.action.ms), ran := l.ran ++ [l.action.value] }
      else l
    l.checkAction

/-- A task can go on. -/
def ready (l : LatchShow) : LatchTask → Bool
  | .call n => l.hall.canAdvance n
  | .keeper => l.hall.latch.keeperReady
  | .action => l.hall.latch.action = .spawned || l.due.any fun due => due ≤ l.now

/-- The stage on which latches are rehearsed. -/
def stage : CallStage LatchShow LatchTask TimedAction (Option Int) where
  now := LatchShow.now
  setNow t l := { l with now := t }
  tasks l := LatchTask.keeper :: LatchTask.action :: l.hall.calls.numbers.map .call
  ready := ready
  alarm l t := if t = .action then l.due else none
  poll := poll
  begin n action l := { l with hall := l.hall.call n, actions := l.actions.set n action }
  task := .call
  result? l n := match l.hall.calls.get? n with
    | some (.returned outcome) => some outcome
    | _ => none
  leave n l := { l with hall := l.hall.leave n }

end LatchShow
end ClusterControl
