import ClusterControl.Decimal.Shortest
/-!
# JSON values

The value type of the wire format and of rendered node configurations, and its two written forms:
compact, and indented by two blanks per level.  Members are written in the order they stand in;
`Json.table` is the object of a table, whose members stand in key order.
-/

namespace ClusterControl

/-- A JSON value.  An integer that fits sixty-four bits keeps its exact value; any other number is
the nearest floating-point number, given by its bits. -/
inductive Json
  | null
  | bool (b : Bool)
  | num (i : Int)
  | real (bits : UInt64)
  | str (s : String)
  | arr (items : List Json)
  | obj (members : List (String × Json))
deriving Repr, Inhabited

namespace Json

/-- Floating-point numbers have a point unless they have an exponent, and are written out from
`10 ^ -5` to below `10 ^ 16`. -/
def floatStyle : FloatStyle := ⟨-5, 15, 2⟩

/-- Four hexadecimal digits. -/
def hex4 (n : Nat) : List Char :=
  [Nat.digitChar (n / 4096 % 16), Nat.digitChar (n / 256 % 16), Nat.digitChar (n / 16 % 16),
    Nat.digitChar (n % 16)]

/-- One character of a written text. -/
def escapeChar (c : Char) : List Char :=
  if c = '"' then ['\\', '"']
  else if c = '\\' then ['\\', '\\']
  else if c = '\n' then ['\\', 'n']
  else if c = '\r' then ['\\', 'r']
  else if c = '\t' then ['\\', 't']
  else if c.toNat = 8 then ['\\', 'b']
  else if c.toNat = 12 then ['\\', 'f']
  else if c.toNat < 0x20 then '\\' :: 'u' :: hex4 c.toNat
  else [c]

/-- A text between quotes. -/
def escape (s : String) : List Char :=
  '"' :: (s.toList.flatMap escapeChar ++ ['"'])

/-- The characters of an integer. -/
def intChars (i : Int) : List Char :=
  if i < 0 then '-' :: Nat.toDigits 10 i.natAbs else Nat.toDigits 10 i.natAbs

/-- The word for a truth value. -/
def boolChars (b : Bool) : List Char :=
  if b then ['t', 'r', 'u', 'e'] else ['f', 'a', 'l', 's', 'e']

mutual

/-- The compact form. -/
def write : Json → List Char
  | null => ['n', 'u', 'l', 'l']
  | bool b => boolChars b
  | num i => intChars i
  | real bits => (floatStyle.render bits).toList
  | str s => escape s
  | arr [] => ['[', ']']
  | arr (x :: xs) => '[' :: (write x ++ (writeItems xs ++ [']']))
  | obj [] => ['{', '}']
  | obj (m :: ms) => '{' :: (writeMember m ++ (writeMembers ms ++ ['}']))

/-- The items after the first one, each after a comma. -/
def writeItems : List Json → List Char
  | [] => []
  | x :: xs => ',' :: (write x ++ writeItems xs)

/-- One member. -/
def writeMember : String × Json → List Char
  | (key, value) => escape key ++ ':' :: write value

/-- The members after the first one, each after a comma. -/
def writeMembers : List (String × Json) → List Char
  | [] => []
  | m :: ms => ',' :: (writeMember m ++ writeMembers ms)

end

/-- The compact form as a text. -/
def compact (j : Json) : String :=
  String.ofList j.write

/-- A line break and the blanks that a line of this level starts with. -/
def newline (level : Nat) : List Char :=
  '\n' :: List.replicate (2 * level) ' '

mutual

/-- The indented form of a value that stands on a line of this level. -/
def writeIndented (level : Nat) : Json → List Char
  | arr [] => ['[', ']']
  | arr (x :: xs) =>
    '[' :: (newline (level + 1) ++ (writeIndented (level + 1) x ++
      (writeIndentedItems (level + 1) xs ++ (newline level ++ [']']))))
  | obj [] => ['{', '}']
  | obj (m :: ms) =>
    '{' :: (newline (level + 1) ++ (writeIndentedMember (level + 1) m ++
      (writeIndentedMembers (level + 1) ms ++ (newline level ++ ['}']))))
  | null => ['n', 'u', 'l', 'l']
  | bool b => boolChars b
  | num i => intChars i
  | real bits => (floatStyle.render bits).toList
  | str s => escape s

/-- The items after the first one, each on a line of its own. -/
def writeIndentedItems (level : Nat) : List Json → List Char
  | [] => []
  | x :: xs => ',' :: (newline level ++ (writeIndented level x ++ writeIndentedItems level xs))

/-- One member. -/
def writeIndentedMember (level : Nat) : String × Json → List Char
  | (key, value) => escape key ++ ':' :: ' ' :: writeIndented level value

/-- The members after the first one, each on a line of its own. -/
def writeIndentedMembers (level : Nat) : List (String × Json) → List Char
  | [] => []
  | m :: ms =>
    ',' :: (newline level ++ (writeIndentedMember level m ++ writeIndentedMembers level ms))

end

/-- The indented form as a text. -/
def indented (j : Json) : String :=
  String.ofList (writeIndented 0 j)

/-- The value of a key in a list of members: the last one that is given for it. -/
def member? (members : List (String × Json)) (key : String) : Option Json :=
  (members.reverse.find? fun m => m.1 = key).map Prod.snd

/-- Puts a member into a list that is in key order; a later value for a key replaces the earlier
one. -/
def insertMember (key : String) (value : Json) : List (String × Json) → List (String × Json)
  | [] => [(key, value)]
  | (k, v) :: rest =>
    if key < k then (key, value) :: (k, v) :: rest
    else if key = k then (key, value) :: rest
    else (k, v) :: insertMember key value rest

/-- The object of a table: one member per key, in key order. -/
def table (members : List (String × Json)) : Json :=
  obj (members.foldl (fun acc m => insertMember m.1 m.2 acc) [])

mutual

/-- The same value with every object's members in key order. -/
def sorted : Json → Json
  | arr xs => arr (sortedItems xs)
  | obj ms => table (sortedMembers ms)
  | null => null
  | bool b => bool b
  | num i => num i
  | real bits => real bits
  | str s => str s

/-- `sorted` on every item. -/
def sortedItems : List Json → List Json
  | [] => []
  | x :: xs => sorted x :: sortedItems xs

/-- `sorted` on every member's value. -/
def sortedMembers : List (String × Json) → List (String × Json)
  | [] => []
  | (k, v) :: ms => (k, sorted v) :: sortedMembers ms

end

end Json
end ClusterControl
