import ClusterControl.Mailbox.Slot
import ClusterControl.Roster
import ClusterControl.Sync.Notify
/-!
# Mailboxes

A slot between a sender that any number of tasks share and a receiver, with the calls that wait at
either end.  A call looks at the slot, gets ready to wait if there is nothing for it, waits, and
looks again when it is woken; between these steps anything may happen.
-/

namespace ClusterControl

/-- Where a call stands that waits for something to happen to a slot. -/
inductive Pace
  | looking
  -- has found nothing, and is about to wait
  | arming
  | waiting
deriving Repr, DecidableEq, Inhabited

/-- A call at a mailbox. -/
inductive MailCall (α : Type)
  | receiving (pace : Pace)
  -- the receiver got a value, or learnt that there will be none
  | received (value : Option α)
  -- a holder of the sender waits for the receiver to go away
  | watching (pace : Pace)
  -- it has learnt that the receiver is gone
  | told
deriving Repr, DecidableEq, Inhabited

/-- A mailbox with its calls. -/
structure Exchange (α : Type) where
  slot : Slot α := {}
  toReceiver : Notify := {}
  toSender : Notify := {}
  calls : Roster (MailCall α) := {}
deriving Repr, DecidableEq, Inhabited

namespace Exchange

variable {α : Type}

/-! Whoever changes the slot tells the other side afterwards, and in between anything may happen. -/

/-- Puts a value into the slot. -/
def deposit (x : Exchange α) (v : α) : Except α Bool × Exchange α :=
  match x.slot.post v with
  | .ok (replaced, slot) => (.ok replaced, { x with slot := slot })
  | .error v => (.error v, x)

/-- The slot loses its sender. -/
def withdrawSender (x : Exchange α) : Exchange α :=
  { x with slot := x.slot.dropSender }

/-- The slot loses its receiver. -/
def withdrawReceiver (x : Exchange α) : Exchange α :=
  { x with slot := x.slot.dropReceiver }

/-- Tells the receiver that something has happened to the slot. -/
def tellReceiver (x : Exchange α) : Exchange α :=
  { x with toReceiver := x.toReceiver.signal }

/-- Tells those who hold the sender that something has happened to the slot. -/
def tellSender (x : Exchange α) : Exchange α :=
  { x with toSender := x.toSender.signal }

/-- Posts a value. -/
def post (x : Exchange α) (v : α) : Except α Bool × Exchange α :=
  match x.deposit v with
  | (.ok replaced, x) => (.ok replaced, x.tellReceiver)
  | (.error v, x) => (.error v, x)

/-- Takes the value that waits, if there is one. -/
def tryTake (x : Exchange α) : Option α × Exchange α :=
  let (value, slot) := x.slot.take
  (value, { x with slot := slot })

/-- The sender goes away. -/
def dropSender (x : Exchange α) : Exchange α :=
  x.withdrawSender.tellReceiver

/-- The receiver goes away. -/
def dropReceiver (x : Exchange α) : Exchange α :=
  x.withdrawReceiver.tellSender

/-- The receiver begins to wait for a value. -/
def receive (x : Exchange α) (n : Nat) : Exchange α :=
  { x with calls := x.calls.set n (.receiving .looking) }

/-- A holder of the sender begins to wait for the receiver to go away. -/
def watch (x : Exchange α) (n : Nat) : Exchange α :=
  { x with calls := x.calls.set n (.watching .looking) }

/-- One step of a call. -/
def advance (x : Exchange α) (n : Nat) : Exchange α :=
  match x.calls.get? n with
  | some (.receiving .looking) =>
    match x.slot.value with
    | some v =>
      { x with slot := x.slot.take.2, calls := x.calls.set n (.received (some v)) }
    | none =>
      if x.slot.senderAlive then { x with calls := x.calls.set n (.receiving .arming) }
      else { x with calls := x.calls.set n (.received none) }
  | some (.receiving .arming) =>
    let (go, notify) := x.toReceiver.arm n
    { x with toReceiver := notify,
             calls := x.calls.set n (.receiving (if go then .looking else .waiting)) }
  | some (.receiving .waiting) =>
    if x.toReceiver.isWoken n then
      { x with toReceiver := x.toReceiver.proceed n, calls := x.calls.set n (.receiving .looking) }
    else x
  | some (.watching .looking) =>
    if x.slot.receiverAlive then { x with calls := x.calls.set n (.watching .arming) }
    else { x with calls := x.calls.set n .told }
  | some (.watching .arming) =>
    let (go, notify) := x.toSender.arm n
    { x with toSender := notify,
             calls := x.calls.set n (.watching (if go then .looking else .waiting)) }
  | some (.watching .waiting) =>
    if x.toSender.isWoken n then
      { x with toSender := x.toSender.proceed n, calls := x.calls.set n (.watching .looking) }
    else x
  | _ => x

/-- A call can take a step. -/
def canAdvance (x : Exchange α) (n : Nat) : Bool :=
  match x.calls.get? n with
  | some (.receiving .waiting) => x.toReceiver.isWoken n
  | some (.watching .waiting) => x.toSender.isWoken n
  | some (.receiving _) => true
  | some (.watching _) => true
  | _ => false

/-- A call goes away, whether it has come to its end or not. -/
def leave (x : Exchange α) (n : Nat) : Exchange α :=
  let x := match x.calls.get? n with
    | some (.receiving .waiting) => { x with toReceiver := x.toReceiver.leave n }
    | some (.watching .waiting) => { x with toSender := x.toSender.leave n }
    | _ => x
  { x with calls := x.calls.erase n }

/-- The steps that a call takes in a row at most: a kept signal makes it look twice. -/
def stride : Nat := 6

/-- A call takes steps until it has to wait or has come to its end. -/
def poll (x : Exchange α) (n : Nat) : Exchange α :=
  (List.range stride).foldl (fun x _ => x.advance n) x

end Exchange
end ClusterControl
