/-!
# Clockwork

Runs a state with many tasks on a clock of its own.  The clock stands still while any task can go
on, and otherwise jumps to the next alarm.  Tasks go on one after the other, in the order in which
they became able to, and those that an alarm wakes in the order in which the alarms were set.  One
of them, the front task, is carried by the driver of the run, which waits for it.

A run here is one of the orders in which the tasks can go on; what holds of every order is said of
the state machines themselves.

All rehearsals are made with this.  Each of them takes one state machine of the library and puts
something simple in place of its surroundings, a launcher or processes that follow a script, so that
it can be run and watched from outside, one step after the other.  They are for trying the state
machines out, and nothing in the library rests on them.
-/

namespace ClusterControl

/-- A state that tasks work on. -/
structure Stage (σ τ : Type) where
  now : σ → Nat
  setNow : Nat → σ → σ
  tasks : σ → List τ
  ready : σ → τ → Bool
  -- when a task wants to be looked at although nothing has happened
  alarm : σ → τ → Option Nat
  -- a task goes on as far as it can
  poll : τ → σ → σ

/-- A state with the tasks that are in line, and the alarms in the order in which they were set. -/
structure Room (σ τ : Type) where
  state : σ
  queue : List τ := []
  alarms : List (τ × Nat) := []

namespace Stage

variable {σ τ ρ : Type} [BEq τ]

/-- The alarms after something has happened: those that stand, then the new ones. -/
def alarmsOf (s : Stage σ τ) (state : σ) (old : List (τ × Nat)) : List (τ × Nat) :=
  let standing := old.filter fun a => s.alarm state a.1 == some a.2
  standing ++ (s.tasks state).filterMap fun t =>
    match s.alarm state t with
    | some due => if standing.any fun a => a.1 == t then none else some (t, due)
    | none => none

/-- Puts the tasks that can go on in line, those with an alarm first. -/
def refresh (s : Stage σ τ) (r : Room σ τ) : Room σ τ :=
  let alarms := s.alarmsOf r.state r.alarms
  let due := (alarms.filter fun a => a.2 ≤ s.now r.state).map Prod.fst
  let queue := (due ++ s.tasks r.state).foldl (fun queue t =>
    if queue.contains t || !s.ready r.state t then queue else queue ++ [t]) r.queue
  { r with queue := queue, alarms := alarms }

/-- Lets the tasks in line go on until nobody is in line. -/
def drain (s : Stage σ τ) : Nat → Room σ τ → Room σ τ
  | 0, r => r
  | fuel + 1, r =>
    match r.queue with
    | [] => r
    | t :: rest => s.drain fuel (s.refresh { r with state := s.poll t r.state, queue := rest })

/-- The steps that a run may take at most. -/
def patience : Nat := 1000000000

/-- Lets every task go on until each one waits for time or for the driver. -/
def settle (s : Stage σ τ) (r : Room σ τ) : Room σ τ :=
  s.drain patience (s.refresh r)

/-- The first alarm that is still to come. -/
def nextAlarm (now : Nat) (alarms : List (τ × Nat)) : Option Nat :=
  alarms.foldl (fun best a =>
    if a.2 ≤ now then best
    else match best with
      | some due => some (min due a.2)
      | none => some a.2) none

/-- Waits until the driver's attempt gives something, or until the limit.  The driver makes its
attempt when its front task is next in line, and whenever nobody is in line; the limit counts only
when all tasks that can go on by then have done so. -/
def awaitFor (s : Stage σ τ) (front : Option τ) (attempt : σ → Option ρ × σ) (limit : Nat) :
    Nat → Room σ τ → Option ρ × Room σ τ
  | 0, r => (none, r)
  | fuel + 1, r =>
    match r.queue with
    | t :: rest =>
      if some t == front then
        match attempt r.state with
        | (some found, state) => (some found, { r with state := state, queue := rest })
        | (none, state) =>
          s.awaitFor front attempt limit fuel (s.refresh { r with state := state, queue := rest })
      else
        s.awaitFor front attempt limit fuel
          (s.refresh { r with state := s.poll t r.state, queue := rest })
    | [] =>
      match attempt r.state with
      | (some found, state) => (some found, { r with state := state })
      | (none, state) =>
        let r := s.refresh { r with state := state }
        let now := s.now r.state
        if limit ≤ now then (none, r)
        else if r.queue.isEmpty then
          let next := min ((nextAlarm now r.alarms).getD limit) limit
          s.awaitFor front attempt limit fuel
            (s.refresh { r with state := s.setNow next r.state })
        else s.awaitFor front attempt limit fuel r

/-- Waits for something, or until the limit, and then lets all tasks come to rest. -/
def await (s : Stage σ τ) (front : Option τ) (attempt : σ → Option ρ × σ) (limit : Nat)
    (r : Room σ τ) : Option ρ × Room σ τ :=
  let (found, r) := s.awaitFor front attempt limit patience r
  (found, s.settle r)

/-- Lets time pass. -/
def sleep (s : Stage σ τ) (ms : Nat) (r : Room σ τ) : Room σ τ :=
  (s.await none (fun state => ((none : Option Unit), state)) (s.now r.state + ms) r).2

/-- Changes the state from outside and lets all tasks come to rest. -/
def change (s : Stage σ τ) (f : σ → σ) (r : Room σ τ) : Room σ τ :=
  s.settle { r with state := f r.state }

end Stage
end ClusterControl
