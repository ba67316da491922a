/-!
# Single slots

A slot holds at most one value on its way from a sender to a receiver.  A value that is put in while
another one waits takes its place, so the receiver always finds the newest one.
-/

namespace ClusterControl

/-- A slot with its two ends. -/
structure Slot (α : Type) where
  value : Option α := none
  senderAlive : Bool := true
  receiverAlive : Bool := true
deriving Repr, DecidableEq, Inhabited

namespace Slot

variable {α : Type}

/-- Puts a value in, and tells whether it takes another one's place.  Without a receiver the value
is handed back. -/
def post (s : Slot α) (v : α) : Except α (Bool × Slot α) :=
  if s.receiverAlive then .ok (s.value.isSome, { s with value := some v }) else .error v

/-- Takes the value out. -/
def take (s : Slot α) : Option α × Slot α :=
  (s.value, { s with value := none })

/-- The sender goes away; a value that waits stays. -/
def dropSender (s : Slot α) : Slot α :=
  { s with senderAlive := false }

/-- The receiver goes away, and a value that waits with it. -/
def dropReceiver (s : Slot α) : Slot α :=
  { s with receiverAlive := false, value := none }

end Slot
end ClusterControl
