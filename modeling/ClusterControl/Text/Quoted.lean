import ClusterControl.Text.Shapeless
/-!
# Quoted text

How a text is shown inside a message so that its ends and its odd characters can be seen: between
double quotes, with a backslash before a quote or a backslash, with a letter for the four common
control characters, and with the number of any other character that has no shape.
-/

namespace ClusterControl

/-- The digits of a number in base sixteen, lower case, without leading zeros. -/
def hexNumber (n : Nat) : String :=
  String.ofList (Nat.toDigits 16 n)

/-- One character of a quoted text. -/
def quotedChar (c : Char) : String :=
  if c = '\x00' then "\\0"
  else if c = '\t' then "\\t"
  else if c = '\r' then "\\r"
  else if c = '\n' then "\\n"
  else if c = '"' then "\\\""
  else if c = '\\' then "\\\\"
  else if isShapeless c then "\\u\x7b" ++ hexNumber c.toNat ++ "\x7d"
  else c.toString

/-- A text between quotes. -/
def quoted (s : String) : String :=
  "\"" ++ String.join (s.toList.map quotedChar) ++ "\""

end ClusterControl
