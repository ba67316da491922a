/-!
# Signals

A flag that is raised at most once and never lowered, seen by any number of observers.  Whoever
could raise it may also go away without doing so.
-/

namespace ClusterControl

/-- What an observer sees of a flag. -/
inductive Signal
  | pending
  | raised
  | abandoned
deriving Repr, DecidableEq, Inhabited

namespace Signal

/-- Nothing more will come: the flag is up, or nobody is left to raise it. -/
def isSettled : Signal → Bool
  | pending => false
  | _ => true

/-- Raises the flag. -/
def raise : Signal → Signal
  | pending => raised
  | s => s

/-- The last one who could raise the flag goes away. -/
def abandon : Signal → Signal
  | pending => abandoned
  | s => s

/-- The flag as it is at first. -/
def ofBool (up : Bool) : Signal :=
  if up then raised else pending

end Signal
end ClusterControl
