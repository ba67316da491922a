/-!
# Fair locks

A lock that at most one party holds and that the others get in the order in which they asked.  A
lock that is given back belongs to the first in line at once, before that party has noticed.
-/

namespace ClusterControl

/-- Who holds a lock, and who stands in line for it. -/
structure FairLock (τ : Type) where
  holder : Option τ := none
  queue : List τ := []
deriving Repr, DecidableEq, Inhabited

namespace FairLock

variable {τ : Type} [DecidableEq τ]

/-- Asks for the lock: a free one is had at once. -/
def request (l : FairLock τ) (party : τ) : FairLock τ :=
  match l.holder with
  | none => { l with holder := some party }
  | some _ => { l with queue := l.queue ++ [party] }

/-- The party has the lock. -/
def isHeldBy (l : FairLock τ) (party : τ) : Bool :=
  l.holder = some party

/-- Gives the lock back; the first in line has it from now on. -/
def release (l : FairLock τ) : FairLock τ :=
  { holder := l.queue.head?, queue := l.queue.tail }

/-- A party goes away, whether it holds the lock, stands in line or neither. -/
def leave (l : FairLock τ) (party : τ) : FairLock τ :=
  if l.isHeldBy party then l.release else { l with queue := l.queue.erase party }

end FairLock
end ClusterControl
