import ClusterControl.Json.Value
/-!
# Looking into values

What stands at a key of a JSON value, taken for a text, a number, a flag or a sequence.  What is not
there, or is something else, counts as empty.
-/

namespace ClusterControl
namespace Json
namespace Lookup

/-- What stands at a key. -/
def field (j : Json) (key : String) : Json :=
  match j with
  | .obj ms => (member? ms key).getD .null
  | _ => .null

/-- The value is `null`. -/
def isNull : Json → Bool
  | .null => true
  | _ => false

/-- The text that a value is. -/
def strOf? : Json → Option String
  | .str s => some s
  | _ => none

/-- The natural number that a value is. -/
def natOf? : Json → Option Nat
  | .num i => if 0 ≤ i then some i.toNat else none
  | _ => none

/-- The items of a sequence. -/
def itemsOf : Json → List Json
  | .arr xs => xs
  | _ => []

/-- The members of an object. -/
def membersOf : Json → List (String × Json)
  | .obj ms => ms
  | _ => []

/-- The text at a key, if there is one. -/
def str? (j : Json) (key : String) : Option String := strOf? (field j key)

/-- The text at a key. -/
def str (j : Json) (key : String) : String := (str? j key).getD ""

/-- The natural number at a key, if there is one. -/
def nat? (j : Json) (key : String) : Option Nat := natOf? (field j key)

/-- The natural number at a key. -/
def nat (j : Json) (key : String) : Nat := (nat? j key).getD 0

/-- The flag at a key. -/
def flag (j : Json) (key : String) : Bool :=
  match field j key with
  | .bool b => b
  | _ => false

/-- The items at a key. -/
def items (j : Json) (key : String) : List Json := itemsOf (field j key)

/-- The texts among the items at a key. -/
def strings (j : Json) (key : String) : List String := (items j key).filterMap strOf?

end Lookup
end Json
end ClusterControl
