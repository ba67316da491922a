import ClusterControl.Failure
import ClusterControl.Mailbox.Slot
import ClusterControl.Sync.Signal
/-!
# Status feeds

A feed samples a source over and over for one subscriber, at once and then once per interval, and
leaves each sample in a slot, where the next one takes its place.  It ends when its subscriber
cancels it or goes away, or when the source stops; in the last case it takes one more sample, the
final one.

The clock counts in a unit of its own, in which the interval is given too.  Which one that is counts
for `Feed.grace` only, and so for late samples.
-/

namespace ClusterControl

/-- Why a feed ended. -/
inductive FeedEnd
  -- its subscriber cancelled it, or can no longer do so
  | cancelled
  | sourceStopped
  | disconnected
deriving Repr, DecidableEq, Inhabited

/-- The word for an end. -/
def FeedEnd.word : FeedEnd → String
  | cancelled => "Cancelled"
  | sourceStopped => "SourceStopped"
  | disconnected => "Disconnected"

/-- How far a feed is. -/
inductive FeedPhase
  | fresh
  -- it takes its next sample at this time
  | running (next : Nat)
  | ended (why : FeedEnd)
deriving Repr, DecidableEq, Inhabited

/-- A feed with its subscriber's end. -/
structure Feed (α : Type) where
  -- in the unit of the clock
  interval : Nat
  -- the newest sample that the subscriber has not received
  slot : Slot α := {}
  cancel : Signal := .pending
  phase : FeedPhase := .fresh
deriving Repr, DecidableEq, Inhabited

namespace Feed

variable {α : Type}

/-- Opens a feed.  Its interval, a number of the clock's units, must not be zero. -/
def create (interval : Nat) (cancel : Signal) : Outcome (Feed α) :=
  if interval = 0 then .error (.invalidArgument "push interval must be greater than zero")
  else .ok { interval := interval, cancel := cancel }

/-- How late a sample may be without moving the later ones: five milliseconds, on a clock that counts
those. -/
def grace : Nat := 5

/-- When the sample after the one that is due at `due` and taken at `now` is due. -/
def following (f : Feed α) (due now : Nat) : Nat :=
  if now ≤ due + grace then due + f.interval else now + f.interval

/-- The feed with one more sample in its slot, if there is a subscriber. -/
def put (f : Feed α) (sample : α) : Feed α :=
  match f.slot.post sample with
  | .ok (_, slot) => { f with slot := slot }
  | .error _ => f

/-- The feed after its end. -/
def finish (f : Feed α) (why : FeedEnd) : Feed α :=
  { f with phase := .ended why, slot := f.slot.dropSender }

/-- When the feed's next sample is due, while it runs. -/
def due? (f : Feed α) (now : Nat) : Option Nat :=
  match f.phase with
  | .fresh => some now
  | .running next => some next
  | .ended _ => none

/-- The feed goes on, at a time at which the source stands at `sample`, and tells whether it took
the sample.  Of several reasons to go on the first one here counts. -/
def poll (f : Feed α) (now : Nat) (stopped : Bool) (sample : α) : Feed α × Bool :=
  match f.due? now with
  | none => (f, false)
  | some due =>
    if f.cancel.isSettled then (f.finish .cancelled, false)
    else if stopped then ((f.put sample).finish .sourceStopped, true)
    else if !f.slot.receiverAlive then (f.finish .disconnected, false)
    else if due ≤ now then
      ({ f.put sample with phase := .running (f.following due now) }, true)
    else ({ f with phase := .running due }, false)

/-- The feed can go on. -/
def ready (f : Feed α) (now : Nat) (stopped : Bool) : Bool :=
  match f.due? now with
  | none => false
  | some due => f.cancel.isSettled || stopped || !f.slot.receiverAlive || due ≤ now

/-- When the feed wants to go on although nothing has happened. -/
def alarm (f : Feed α) : Option Nat :=
  match f.phase with
  | .running next => some next
  | _ => none

/-- Why the feed ended, once it has. -/
def end? (f : Feed α) : Option FeedEnd :=
  match f.phase with
  | .ended why => some why
  | _ => none

/-- The subscriber takes the newest sample, or learns that there will be none; nothing if it has to
wait. -/
def receive (f : Feed α) : Option (Option α) × Feed α :=
  match f.slot.take with
  | (some sample, slot) => (some (some sample), { f with slot := slot })
  | (none, _) => (if f.slot.senderAlive then none else some none, f)

/-- The subscriber cancels the feed. -/
def cancelled (f : Feed α) : Feed α :=
  { f with cancel := f.cancel.raise }

/-- The subscriber gives up the means to cancel the feed. -/
def uncancellable (f : Feed α) : Feed α :=
  { f with cancel := f.cancel.abandon }

/-- The subscriber goes away. -/
def disconnected (f : Feed α) : Feed α :=
  { f with slot := f.slot.dropReceiver }

end Feed
end ClusterControl
