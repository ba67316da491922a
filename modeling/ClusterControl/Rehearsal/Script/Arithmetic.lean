import ClusterControl.Rehearsal.Script.Word
/-!
# Sums in scripts

A script may put the value of a sum into a word.  A sum is made of whole numbers, names of numbers
and signs; the signs of a later level bind more tightly, and signs of one level are read from the
left.  A comparison is one if it holds, and otherwise zero.
-/

namespace ClusterControl
namespace Script

/-- What a sum is made of. -/
inductive Summand
  | number (n : Int)
  | sign (s : String)
deriving Repr, DecidableEq

namespace Summand

/-- The signs between two numbers, level by level. -/
def levels : List (List String) :=
  [["||"], ["&&"], ["|"], ["^"], ["&"], ["==", "!="], ["<=", ">=", "<", ">"], ["<<", ">>"],
    ["+", "-"], ["*", "/", "%"]]

/-- The signs, longer ones first. -/
def signs : List String :=
  ["||", "&&", "==", "!=", "<<", ">>", "<=", ">=", "|", "^", "&", "<", ">", "+", "-", "*", "/", "%",
    "!", "(", ")"]

/-- One if a comparison holds. -/
def truth (b : Bool) : Int := if b then 1 else 0

/-- What a sign makes of two numbers. -/
def join (s : String) (a b : Int) : Int :=
  match s with
  | "||" => truth (a ≠ 0 || b ≠ 0)
  | "&&" => truth (a ≠ 0 && b ≠ 0)
  | "|" => (a.toNat ||| b.toNat : Nat)
  | "^" => (a.toNat ^^^ b.toNat : Nat)
  | "&" => (a.toNat &&& b.toNat : Nat)
  | "==" => truth (a = b)
  | "!=" => truth (a ≠ b)
  | "<=" => truth (a ≤ b)
  | ">=" => truth (b ≤ a)
  | "<" => truth (a < b)
  | ">" => truth (b < a)
  | "<<" => (a.toNat <<< b.toNat : Nat)
  | ">>" => (a.toNat >>> b.toNat : Nat)
  | "+" => a + b
  | "-" => a - b
  | "*" => a * b
  | "/" => a.tdiv b
  | _ => a.tmod b

/-- The summands of a text, in which names stand for numbers. -/
def ofText (valueOf : String → String) : Nat → List Char → List Summand
  | 0, _ => []
  | _, [] => []
  | n + 1, c :: rest =>
    let cs := c :: rest
    if c = ' ' || c = '\t' || c = '\n' || c = '$' then ofText valueOf n rest
    else if isNameChar c then
      let word := cs.takeWhile isNameChar
      let text := if c.isDigit then String.ofList word else valueOf (String.ofList word)
      .number (text.toInt?.getD 0) :: ofText valueOf n (cs.dropWhile isNameChar)
    else
      match leadingSign? signs cs with
      | some s => .sign s :: ofText valueOf n (cs.drop s.length)
      | none => ofText valueOf n rest

mutual

/-- The value at some levels, and what is left. -/
def value : Nat → List (List String) → List Summand → Int × List Summand
  | 0, _, ts => (0, ts)
  | n + 1, [], ts =>
    match ts with
    | .number a :: ts => (a, ts)
    | .sign "(" :: ts =>
      let (a, ts) := value n levels ts
      (a, ts.drop 1)
    | .sign "-" :: ts =>
      let (a, ts) := value n [] ts
      (-a, ts)
    | .sign "!" :: ts =>
      let (a, ts) := value n [] ts
      (truth (a = 0), ts)
    | .sign "+" :: ts => value n [] ts
    | ts => (0, ts)
  | n + 1, level :: higher, ts =>
    let (a, ts) := value n higher ts
    joined n level higher a ts

/-- A number with those that the signs of a level join to it, and what is left. -/
def joined : Nat → List String → List (List String) → Int → List Summand → Int × List Summand
  | 0, _, _, a, ts => (a, ts)
  | n + 1, level, higher, a, .sign s :: ts =>
    if level.contains s then
      let (b, ts) := value n higher ts
      joined n level higher (join s a b) ts
    else (a, .sign s :: ts)
  | _, _, _, a, ts => (a, ts)

end

end Summand

/-- The value of a sum. -/
def sumOf (valueOf : String → String) (cs : List Char) : Int :=
  let ts := Summand.ofText valueOf (cs.length + 1) cs
  (Summand.value (12 * (ts.length + 2)) Summand.levels ts).1

end Script
end ClusterControl
