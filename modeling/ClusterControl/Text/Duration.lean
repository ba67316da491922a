/-!
# Durations

A length of time in nanoseconds, and how a message shows it: in the largest unit that leaves a
whole part, with as many decimals as it needs and no more.
-/

namespace ClusterControl

/-- A length of time, counted in nanoseconds. -/
structure Duration where
  nanos : Nat
deriving Repr, DecidableEq, Inhabited

namespace Duration

/-- A number of milliseconds. -/
def ofMillis (ms : Nat) : Duration :=
  ⟨ms * 1000000⟩

/-- A number of seconds. -/
def ofSecs (secs : Nat) : Duration :=
  ⟨secs * 1000000000⟩

/-- The instants of the virtual clock that a wait of this length takes.  The clock counts
milliseconds, and a wait never ends early. -/
def ticks (d : Duration) : Nat :=
  (d.nanos + 999999) / 1000000

/-- A list of digits without the zeros at its end. -/
def dropZeros (digits : List Char) : List Char :=
  (digits.reverse.dropWhile (· = '0')).reverse

/-- The decimals of `part` out of `10 ^ places`, without the zeros at the end. -/
def decimals (part places : Nat) : List Char :=
  let digits := Nat.toDigits 10 part
  dropZeros (List.replicate (places - digits.length) '0' ++ digits)

/-- A whole part and `part` out of `10 ^ places`, followed by a unit. -/
def renderIn (whole part places : Nat) (unit : String) : String :=
  match decimals part places with
  | [] => toString whole ++ unit
  | ds => toString whole ++ "." ++ String.ofList ds ++ unit

/-- The text of a duration. -/
def render (d : Duration) : String :=
  if 1000000000 ≤ d.nanos then renderIn (d.nanos / 1000000000) (d.nanos % 1000000000) 9 "s"
  else if 1000000 ≤ d.nanos then renderIn (d.nanos / 1000000) (d.nanos % 1000000) 6 "ms"
  else if 1000 ≤ d.nanos then renderIn (d.nanos / 1000) (d.nanos % 1000) 3 "µs"
  else renderIn d.nanos 0 0 "ns"

end Duration
end ClusterControl
