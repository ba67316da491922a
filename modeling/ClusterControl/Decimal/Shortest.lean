/-!
# The shortest decimal of a binary number

A sixty-four-bit floating-point number is shown with the fewest significant digits that read back
as the same number, and among those the digits nearest to its value.

A number is taken apart as `m * 2 ^ q`.  The reals that round to it form an interval around it, one
half of the last place to either side (a quarter below a power of two), whose ends belong to it
exactly when `m` is even.  For one digit, two digits and so on, the two neighbours of the number on
the decimal grid of that length are tried; if any point of the grid lies in the interval, one of
them does.
-/

namespace ClusterControl
namespace Shortest

/-- A positive number `value / unit`, with the interval of reals that round to it over the same
unit. -/
structure Span where
  value : Nat
  low : Nat
  high : Nat
  unit : Nat
  closed : Bool

/-- The interval of the positive finite number with these bits. -/
def Span.ofBits (bits : UInt64) : Span :=
  let fraction := bits.toNat % (1 <<< 52)
  let exponent := (bits.toNat >>> 52) % (1 <<< 11)
  let m := if exponent = 0 then fraction else (1 <<< 52) + fraction
  let below := if fraction = 0 ∧ 1 < exponent then 1 else 2
  let shift := max exponent 1
  let up := 1 <<< (shift - 1075)
  let down := 1 <<< (1075 - shift)
  ⟨4 * m * up, (4 * m - below) * up, (4 * m + 2) * up, 4 * down, m % 2 = 0⟩

/-- A decimal `digits * 10 ^ exponent`. -/
structure Point where
  digits : Nat
  -- the power of ten that they are multiplied by
  exponent : Int
deriving Repr, DecidableEq

/-- The decimal over the span's unit, as numerator and denominator. -/
def Point.over (p : Point) (unit : Nat) : Nat × Nat :=
  if 0 ≤ p.exponent then (p.digits * Nat.pow 10 p.exponent.toNat * unit, 1)
  else (p.digits * unit, Nat.pow 10 (-p.exponent).toNat)

/-- The decimal lies in the interval. -/
def Span.holds (s : Span) (p : Point) : Bool :=
  let (n, d) := p.over s.unit
  if s.closed then s.low * d ≤ n && n ≤ s.high * d else s.low * d < n && n < s.high * d

/-- How far the decimal is from the number, as numerator and denominator. -/
def Span.distance (s : Span) (p : Point) : Nat × Nat :=
  let (n, d) := p.over s.unit
  (max n (s.value * d) - min n (s.value * d), d)

/-- The power of ten of the number's first digit. -/
def Span.magnitude (s : Span) : Int :=
  if s.unit ≤ s.value then ((Nat.toDigits 10 (s.value / s.unit)).length : Int) - 1
  else
    let places := (Nat.toDigits 10 (s.unit / s.value)).length
    if s.unit ≤ s.value * Nat.pow 10 (places - 1) then -((places : Int) - 1) else -(places : Int)

/-- The largest point of the grid `10 ^ exponent` that is not above the number. -/
def Span.floorOn (s : Span) (exponent : Int) : Point :=
  if 0 ≤ exponent then ⟨s.value / (s.unit * Nat.pow 10 exponent.toNat), exponent⟩
  else ⟨s.value * Nat.pow 10 (-exponent).toNat / s.unit, exponent⟩

/-- The nearer of the number's two neighbours with `count` digits that lies in the interval. -/
def Span.nearest? (s : Span) (count : Nat) : Option Point :=
  let below := s.floorOn (s.magnitude - (count : Int) + 1)
  let above : Point := ⟨below.digits + 1, below.exponent⟩
  match s.holds below, s.holds above with
  | false, false => none
  | true, false => some below
  | false, true => some above
  | true, true =>
    let (n, d) := s.distance below
    let (n', d') := s.distance above
    if n * d' < n' * d ∨ (n * d' = n' * d ∧ below.digits % 2 = 0) then some below else some above

/-- The shortest decimal of the positive finite number with these bits.  Seventeen digits always
suffice. -/
def ofBits (bits : UInt64) : Point :=
  let s := Span.ofBits bits
  ((List.range 17).findSome? fun i => s.nearest? (i + 1)).getD ⟨0, 0⟩

end Shortest

/-- How a floating-point number is written. -/
structure FloatStyle where
  -- the least power of ten of the first digit that is written without an exponent
  leastPlain : Int
  greatestPlain : Int
  exponentDigits : Nat

namespace FloatStyle

/-- An exponent: its sign always, and at least `least` digits. -/
def exponentText (least : Nat) (e : Int) : String :=
  let digits := Nat.toDigits 10 e.natAbs
  (if e < 0 then "-" else "+") ++
    String.ofList (List.replicate (least - digits.length) '0' ++ digits)

/-- The digits of a positive number whose first digit stands for `10 ^ first`. -/
def renderDigits (style : FloatStyle) (digits : List Char) (first : Int) : String :=
  if style.leastPlain ≤ first ∧ first ≤ style.greatestPlain then
    if first < 0 then
      "0." ++ String.ofList (List.replicate ((-first).toNat - 1) '0' ++ digits)
    else
      let whole := first.toNat + 1
      let padded := digits ++ List.replicate (whole - digits.length) '0'
      let part := if padded.length = whole then ['0'] else padded.drop whole
      String.ofList (padded.take whole) ++ "." ++ String.ofList part
  else
    let part := if digits.length ≤ 1 then "" else "." ++ String.ofList (digits.drop 1)
    String.ofList (digits.take 1) ++ part ++ "e" ++ exponentText style.exponentDigits first

/-- The text of the finite number with these bits. -/
def render (style : FloatStyle) (bits : UInt64) : String :=
  let half := UInt64.size / 2
  let negative := half ≤ bits.toNat
  let size := (bits.toNat % half).toUInt64
  let body :=
    if size = 0 then "0.0"
    else
      let p := Shortest.ofBits size
      let written := Nat.toDigits 10 p.digits
      let first := p.exponent + (written.length : Int) - 1
      let digits := (written.reverse.dropWhile (· = '0')).reverse
      style.renderDigits digits first
  (if negative then "-" else "") ++ body

end FloatStyle
end ClusterControl
