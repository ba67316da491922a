/-!
# How processes end

A process ends with a code of its own or by a signal, which may leave an image of its memory
behind.
-/

namespace ClusterControl

/-- How a process ended. -/
inductive ExitStatus
  | code (n : Nat)
  | signal (n : Nat) (dumped : Bool)
deriving Repr, DecidableEq

/-- The names of the signals, from the first one on. -/
def signalNames : List String := [
  "HUP", "INT", "QUIT", "ILL", "TRAP", "ABRT", "BUS", "FPE", "KILL", "USR1", "SEGV", "USR2", "PIPE",
  "ALRM", "TERM", "STKFLT", "CHLD", "CONT", "STOP", "TSTP", "TTIN", "TTOU", "URG", "XCPU", "XFSZ",
  "VTALRM", "PROF", "WINCH", "IO", "PWR", "SYS"]

/-- The name of a signal. -/
def signalName? (n : Nat) : Option String :=
  if n = 0 then none else signalNames[n - 1]?

/-- The number of the signal with a name. -/
def signalNumber? (name : String) : Option Nat :=
  (signalNames.idxOf? name).map (· + 1)

namespace ExitStatus

/-- How an end is worded. -/
def text : ExitStatus → String
  | code n => "exit status: " ++ toString n
  | signal n dumped => "signal: " ++ toString n ++
    (match signalName? n with
      | some name => " (SIG" ++ name ++ ")"
      | none => "") ++
    if dumped then " (core dumped)" else ""

end ExitStatus
end ClusterControl
