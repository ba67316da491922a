/-!
# Wake-ups

One signal wakes one waiting call.  A signal that finds nobody waiting is kept, once, for the next
call that wants to wait.  Calls wait under tickets, in the order in which they came; a call that was
woken keeps its ticket until it goes on, and one that leaves after it was woken passes the signal
on.
-/

namespace ClusterControl

/-- Who waits to be woken, and who has been. -/
structure Notify where
  -- a signal is kept for the next call
  permit : Bool := false
  waiting : List Nat := []
  -- the tickets that have been woken and have not gone on yet
  woken : List Nat := []
deriving Repr, DecidableEq, Inhabited

namespace Notify

/-- Wakes the first ticket that waits, or keeps the signal. -/
def signal (n : Notify) : Notify :=
  match n.waiting with
  | [] => { n with permit := true }
  | t :: rest => { n with waiting := rest, woken := n.woken ++ [t] }

/-- A call that wants to wait takes a kept signal, and then it need not wait, or stands in line. -/
def arm (n : Notify) (ticket : Nat) : Bool × Notify :=
  if n.permit then (true, { n with permit := false })
  else (false, { n with waiting := n.waiting ++ [ticket] })

/-- A ticket has been woken. -/
def isWoken (n : Notify) (ticket : Nat) : Bool :=
  n.woken.contains ticket

/-- A woken ticket goes on. -/
def proceed (n : Notify) (ticket : Nat) : Notify :=
  { n with woken := n.woken.erase ticket }

/-- A ticket leaves the line.  A signal that it had got wakes another one in its place. -/
def leave (n : Notify) (ticket : Nat) : Notify :=
  if n.isWoken ticket then (n.proceed ticket).signal
  else { n with waiting := n.waiting.erase ticket }

end Notify
end ClusterControl
