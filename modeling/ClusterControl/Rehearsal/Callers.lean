import ClusterControl.Rehearsal.Clockwork
import ClusterControl.Table
/-!
# Callers

Calls on a running state: in front, where the driver of the run waits for the result, or in the
background under a name, to be asked for later.  A caller in the background can be made to go away.
-/

namespace ClusterControl

/-- A stage whose tasks carry calls. -/
structure CallStage (σ τ κ ρ : Type) extends Stage σ τ where
  begin : Nat → κ → σ → σ
  task : Nat → τ
  -- the result of a call that has come to its end
  result? : σ → Nat → Option ρ
  leave : Nat → σ → σ

/-- A caller in the background. -/
inductive Caller
  | known (n : Nat)
  | gone
deriving Repr, DecidableEq

/-- A room with its callers. -/
structure Rehearsal (σ τ : Type) where
  room : Room σ τ
  callers : Table Caller := {}
  next : Nat := 0

/-- A rehearsal that begins in a state. -/
def Rehearsal.of {σ τ : Type} (state : σ) : Rehearsal σ τ :=
  { room := ⟨state, [], []⟩ }

/-- What came of waiting for a call. -/
inductive Awaited (ρ : Type)
  | result (r : ρ)
  | hung
  | aborted
  | unknown

namespace CallStage

variable {σ τ κ ρ : Type} [BEq τ]

/-- How long a call may take, in milliseconds: one day. -/
def limit : Nat := 86400000

/-- Changes the state from outside. -/
def change (s : CallStage σ τ κ ρ) (f : σ → σ) (r : Rehearsal σ τ) : Rehearsal σ τ :=
  { r with room := s.toStage.change f r.room }

/-- Lets time pass. -/
def pause (s : CallStage σ τ κ ρ) (ms : Nat) (r : Rehearsal σ τ) : Rehearsal σ τ :=
  { r with room := s.toStage.sleep ms r.room }

/-- Waits a while for something to turn up in the state. -/
def watchFor {α : Type} (s : CallStage σ τ κ ρ) (attempt : σ → Option α × σ) (ms : Nat)
    (r : Rehearsal σ τ) : Option α × Rehearsal σ τ :=
  let (found, room) := s.toStage.await none attempt (s.now r.room.state + ms) r.room
  (found, { r with room := room })

/-- Makes a call and waits a while for its result; then the caller goes away. -/
def callWithin (s : CallStage σ τ κ ρ) (ms : Nat) (call : κ) (r : Rehearsal σ τ) :
    Option ρ × Rehearsal σ τ :=
  let n := r.next
  let attempt (state : σ) : Option ρ × σ :=
    let state := s.poll (s.task n) state
    match s.result? state n with
    | some result => (some result, s.leave n state)
    | none => (none, state)
  let room := { r.room with state := s.begin n call r.room.state }
  let (found, room) :=
    s.toStage.awaitFor (some (s.task n)) attempt (s.now room.state + ms) Stage.patience room
  let room := if found.isNone then { room with state := s.leave n room.state } else room
  (found, { r with room := s.settle room, next := n + 1 })

/-- Makes a call and waits for its result. -/
def call (s : CallStage σ τ κ ρ) (call : κ) (r : Rehearsal σ τ) : Awaited ρ × Rehearsal σ τ :=
  match s.callWithin limit call r with
  | (some result, r) => (.result result, r)
  | (none, r) => (.hung, r)

/-- Makes a call in the background, and tells whether it came to its end at once. -/
def callAs (s : CallStage σ τ κ ρ) (name : String) (call : κ) (r : Rehearsal σ τ) :
    Bool × Rehearsal σ τ :=
  let n := r.next
  let room := s.toStage.change (s.begin n call) r.room
  ((s.result? room.state n).isSome,
    { room := room, callers := r.callers.insert name (.known n), next := n + 1 })

/-- Tells whether a call in the background has come to its end. -/
def isFinished (s : CallStage σ τ κ ρ) (name : String) (r : Rehearsal σ τ) : Option Bool :=
  match r.callers.get? name with
  | some (.known n) => some (s.result? r.room.state n).isSome
  | some .gone => some true
  | none => none

/-- Waits for a call in the background. -/
def join (s : CallStage σ τ κ ρ) (name : String) (r : Rehearsal σ τ) :
    Awaited ρ × Rehearsal σ τ :=
  let forgotten := { r with callers := r.callers.erase name }
  match r.callers.get? name with
  | none => (.unknown, r)
  | some .gone => (.aborted, forgotten)
  | some (.known n) =>
    match s.watchFor (fun state => (s.result? state n, state)) limit forgotten with
    | (some result, r) => (.result result, r)
    | (none, r) => (.hung, r)

/-- Makes a caller in the background go away, unless its call has come to its end. -/
def abort (s : CallStage σ τ κ ρ) (name : String) (r : Rehearsal σ τ) : Rehearsal σ τ :=
  match r.callers.get? name with
  | some (.known n) =>
    if (s.result? r.room.state n).isSome then r
    else { s.change (s.leave n) r with callers := r.callers.insert name .gone }
  | _ => r

end CallStage
end ClusterControl
