/-!
# Blank characters

The characters that count as white space wherever a text is trimmed: the twenty-five characters
that have the Unicode property of that name.
-/

namespace ClusterControl

/-- The white-space property of characters. -/
def isBlank (c : Char) : Bool :=
  let v := c.toNat
  (9 ≤ v && v ≤ 13) || v == 0x20 || v == 0x85 || v == 0xA0 || v == 0x1680 ||
    (0x2000 ≤ v && v ≤ 0x200A) || v == 0x2028 || v == 0x2029 || v == 0x202F || v == 0x205F ||
    v == 0x3000

/-- A list of characters without the blank ones at either end. -/
def trimChars (cs : List Char) : List Char :=
  ((cs.dropWhile isBlank).reverse.dropWhile isBlank).reverse

/-- A text without the blank characters at either end. -/
def trimText (s : String) : String :=
  String.ofList (trimChars s.toList)

/-- The ASCII letters of a text in upper case; every other character stays. -/
def upperAscii (s : String) : String :=
  String.ofList (s.toList.map Char.toUpper)

/-- The ASCII letters of a text in lower case; every other character stays. -/
def lowerAscii (s : String) : String :=
  String.ofList (s.toList.map Char.toLower)

end ClusterControl
