import ClusterControl.Text.Utf8
/-!
# Scalars of a configuration file

Readers of the parts that a configuration file is made of: keys, texts in their four spellings,
numbers, and dates and times.  A reader gives what it read with the rest of the text, or nothing.
-/

namespace ClusterControl
namespace Toml

/-- A reader of a part of a file. -/
abbrev Reader (α : Type) := List Char → Option (α × List Char)

/-- A blank within a line. -/
def isSpace (c : Char) : Bool :=
  c = ' ' || c = '\t'

/-- The text from its next part in the line on. -/
def skipSpace (cs : List Char) : List Char :=
  cs.dropWhile isSpace

/-- Reads the end of a line. -/
def readNewline : Reader Unit
  | '\n' :: rest => some ((), rest)
  | '\r' :: '\n' :: rest => some ((), rest)
  | _ => none

/-- A character that may stand in a comment or in a text of one line, quotes and backslashes
aside. -/
def isPlain (c : Char) : Bool :=
  c = '\t' || (0x20 ≤ c.toNat && c.toNat ≠ 0x7F)

/-- Skips a comment, if one stands there. -/
def skipComment : List Char → List Char
  | '#' :: rest => rest.dropWhile isPlain
  | cs => cs

/-- Skips blanks, comments and ends of lines; at most `fuel` of them. -/
def skipLines : Nat → List Char → List Char
  | 0, cs => cs
  | fuel + 1, cs =>
    match skipSpace cs with
    | '#' :: rest => skipLines fuel (rest.dropWhile isPlain)
    | '\n' :: rest => skipLines fuel rest
    | '\r' :: '\n' :: rest => skipLines fuel rest
    | rest => rest

/-- A decimal digit. -/
def isDigit (c : Char) : Bool :=
  '0' ≤ c && c ≤ '9'

/-! ## Texts -/

/-- The character with this number, if there is one. -/
def scalar? (n : Nat) : Option Char :=
  if n.isValidChar then some (Char.ofNat n) else none

/-- Reads the character that `count` hexadecimal digits stand for. -/
def readHex (count : Nat) : Reader Char := fun cs => do
  let digits := cs.take count
  if digits.length ≠ count then none
  let values ← digits.mapM hexDigit?
  let c ← scalar? (values.foldl (fun n d => n * 16 + d) 0)
  some (c, cs.drop count)

/-- Reads what follows a backslash. -/
def readEscape : Reader Char
  | 'b' :: rest => some (Char.ofNat 8, rest)
  | 't' :: rest => some ('\t', rest)
  | 'n' :: rest => some ('\n', rest)
  | 'f' :: rest => some (Char.ofNat 12, rest)
  | 'r' :: rest => some ('\r', rest)
  | '"' :: rest => some ('"', rest)
  | '\\' :: rest => some ('\\', rest)
  | 'u' :: rest => readHex 4 rest
  | 'U' :: rest => readHex 8 rest
  | _ => none

/-- Reads a text of one line after its opening quote. -/
def readBasic : Nat → Reader (List Char)
  | 0, _ => none
  | _, [] => none
  | fuel + 1, c :: rest =>
    if c = '"' then some ([], rest)
    else if c = '\\' then do
      let (x, rest) ← readEscape rest
      let (xs, rest) ← readBasic fuel rest
      some (x :: xs, rest)
    else if isPlain c then do
      let (xs, rest) ← readBasic fuel rest
      some (c :: xs, rest)
    else none

/-- Reads a text of one line without escapes after its opening quote. -/
def readLiteral : Reader (List Char)
  | [] => none
  | c :: rest =>
    if c = '\x27' then some ([], rest)
    else if isPlain c then do
      let (xs, rest) ← readLiteral rest
      some (c :: xs, rest)
    else none

/-- Skips the blanks and the ends of lines after a backslash at the end of a line; `none` if
anything else stands on that line. -/
def skipBreak (cs : List Char) : Option (List Char) := do
  let (_, rest) ← readNewline (skipSpace cs)
  let rec go : Nat → List Char → List Char
    | 0, cs => cs
    | fuel + 1, cs =>
      match readNewline (skipSpace cs) with
      | some (_, rest) => go fuel rest
      | none => skipSpace cs
  some (go rest.length rest)

/-- The quotes that end a text of several lines, with up to two before them that belong to it. -/
def closing? (quote : Char) (cs : List Char) : Option (List Char × List Char) :=
  let quotes := (cs.take 5).takeWhile (· = quote)
  if 3 ≤ quotes.length then some (quotes.drop 3, cs.drop quotes.length) else none

/-- Reads a text of several lines after its opening quotes. -/
def readBasicLines : Nat → Reader (List Char)
  | 0, _ => none
  | _, [] => none
  | fuel + 1, c :: rest =>
    match closing? '"' (c :: rest) with
    | some done => some done
    | none =>
      if c = '\\' then
        match skipBreak rest with
        | some rest => readBasicLines fuel rest
        | none => do
          let (x, rest) ← readEscape rest
          let (xs, rest) ← readBasicLines fuel rest
          some (x :: xs, rest)
      else
        match readNewline (c :: rest) with
        | some (_, rest) => do
          let (xs, rest) ← readBasicLines fuel rest
          some ('\n' :: xs, rest)
        | none =>
          if isPlain c then do
            let (xs, rest) ← readBasicLines fuel rest
            some (c :: xs, rest)
          else none

/-- Reads a text of several lines without escapes after its opening quotes. -/
def readLiteralLines : Nat → Reader (List Char)
  | 0, _ => none
  | _, [] => none
  | fuel + 1, c :: rest =>
    match closing? '\x27' (c :: rest) with
    | some done => some done
    | none =>
      match readNewline (c :: rest) with
      | some (_, rest) => do
        let (xs, rest) ← readLiteralLines fuel rest
        some ('\n' :: xs, rest)
      | none =>
        if isPlain c then do
          let (xs, rest) ← readLiteralLines fuel rest
          some (c :: xs, rest)
        else none

/-- The text without an end of a line at its head. -/
def dropNewline (cs : List Char) : List Char :=
  match readNewline cs with
  | some (_, rest) => rest
  | none => cs

/-- Reads a text in any of its spellings. -/
def readText : Reader String := fun cs => do
  let (text, rest) ← match cs with
    | '"' :: '"' :: '"' :: rest => readBasicLines (rest.length + 1) (dropNewline rest)
    | '"' :: rest => readBasic (rest.length + 1) rest
    | '\x27' :: '\x27' :: '\x27' :: rest => readLiteralLines (rest.length + 1) (dropNewline rest)
    | '\x27' :: rest => readLiteral rest
    | _ => none
  some (String.ofList text, rest)

/-! ## Keys -/

/-- A character of a key without quotes. -/
def isBare (c : Char) : Bool :=
  c.isAlphanum || c = '-' || c = '_'

/-- Reads one part of a key. -/
def readKeyPart : Reader String
  | '"' :: rest => (readBasic (rest.length + 1) rest).map fun (s, rest) => (String.ofList s, rest)
  | '\x27' :: rest => (readLiteral rest).map fun (s, rest) => (String.ofList s, rest)
  | cs =>
    let part := cs.takeWhile isBare
    if part.isEmpty then none else some (String.ofList part, cs.dropWhile isBare)

/-- How many parts a key may have, and how deep values may lie within one another. -/
def maxDepth : Nat := 79

/-- Reads at most `fuel` parts of a key with points between them. -/
def readKeyParts : Nat → Reader (List String)
  | 0, _ => none
  | fuel + 1, cs => do
    let (part, rest) ← readKeyPart (skipSpace cs)
    match skipSpace rest with
    | '.' :: rest => do
      let (parts, rest) ← readKeyParts fuel rest
      some (part :: parts, rest)
    | rest => some ([part], rest)

/-- Reads a key. -/
def readKey : Reader (List String) :=
  readKeyParts maxDepth

/-! ## Numbers -/

/-- Reads digits with single underscores between them. -/
def readDigits (isDigit : Char → Bool) : Reader (List Char)
  | [] => none
  | [c] => if isDigit c then some ([c], []) else none
  | c :: '_' :: rest =>
    if isDigit c then do
      let (ds, rest) ← readDigits isDigit rest
      some (c :: ds, rest)
    else none
  | c :: d :: rest =>
    if !isDigit c then none
    else if isDigit d then do
      let (ds, rest) ← readDigits isDigit (d :: rest)
      some (c :: ds, rest)
    else some ([c], d :: rest)

/-- The number that digits stand for. -/
def numberOf (base : Nat) (digits : List Char) : Nat :=
  digits.foldl (fun n c => n * base + (hexDigit? c).getD 0) 0

/-- Reads a sign; the answer says if it was a minus. -/
def readSign : List Char → Bool × List Char
  | '+' :: rest => (false, rest)
  | '-' :: rest => (true, rest)
  | cs => (false, cs)

/-- Reads decimal digits; a zero stands alone. -/
def readWhole : Reader (List Char)
  | '0' :: rest => some (['0'], rest)
  | cs => readDigits isDigit cs

/-- An integer, if it fits sixty-four bits. -/
def integer? (negative : Bool) (n : Nat) : Option Int :=
  if negative then if n ≤ UInt64.size / 2 then some (-(n : Int)) else none
  else if n < UInt64.size / 2 then some n else none

/-- A digit to a base up to sixteen. -/
def isDigitIn (base : Nat) (c : Char) : Bool :=
  match hexDigit? c with
  | some d => d < base
  | none => false

/-- Reads an integer after the two characters that name its base. -/
def readBased (base : Nat) : Reader Int := fun cs => do
  let (digits, rest) ← readDigits (isDigitIn base) cs
  let n ← integer? false (numberOf base digits)
  some (n, rest)

/-- Reads an integer. -/
def readInteger : Reader Int
  | '0' :: 'x' :: rest => readBased 16 rest
  | '0' :: 'o' :: rest => readBased 8 rest
  | '0' :: 'b' :: rest => readBased 2 rest
  | cs => do
    let (negative, cs) := readSign cs
    let (digits, rest) ← readWhole cs
    let n ← integer? negative (numberOf 10 digits)
    some (n, rest)

/-- Reads an exponent. -/
def readExponent : Reader Int := fun cs => do
  let (negative, cs) := readSign cs
  let (digits, rest) ← readDigits isDigit cs
  let n : Int := (numberOf 10 digits : Nat)
  some (if negative then -n else n, rest)

/-- The number `n * 10 ^ e` is too large for a floating-point number. -/
def overflows (n : Nat) (e : Int) : Bool :=
  if n = 0 then false
  else
    let size : Int := ((Nat.toDigits 10 n).length : Nat)
    if 400 < size + e then true
    else if size + e < 300 then false
    else (if 0 ≤ e then Float.ofScientific n false e.natAbs
      else Float.ofScientific n true e.natAbs).isInf

/-- Reads a number with a point or an exponent.  One that is too large is none, unless it is
negative. -/
def readReal : Reader Unit := fun cs => do
  let (negative, cs) := readSign cs
  match cs with
  | 'i' :: 'n' :: 'f' :: rest => some ((), rest)
  | 'n' :: 'a' :: 'n' :: rest => some ((), rest)
  | cs => do
    let (whole, rest) ← readWhole cs
    let (part, e, rest) ← match rest with
      | '.' :: rest => do
        let (part, rest) ← readDigits isDigit rest
        match rest with
        | c :: more =>
          if c = 'e' || c = 'E' then do
            let (e, rest) ← readExponent more
            some (part, e, rest)
          else some (part, 0, rest)
        | [] => some (part, (0 : Int), [])
      | c :: rest =>
        if c = 'e' || c = 'E' then do
          let (e, rest) ← readExponent rest
          some ([], e, rest)
        else none
      | [] => none
    let n := numberOf 10 (whole ++ part)
    if !negative && overflows n (e - (part.length : Nat)) then none else some ((), rest)

/-! ## Dates and times -/

/-- Reads a number of `count` digits from `low` to `high`. -/
def readCount (count low high : Nat) : Reader Nat := fun cs =>
  let digits := cs.take count
  let n := numberOf 10 digits
  if digits.length = count && digits.all isDigit && low ≤ n && n ≤ high then
    some (n, cs.drop count)
  else none

/-- Reads one given character. -/
def readChar (c : Char) : Reader Unit
  | [] => none
  | x :: rest => if x = c then some ((), rest) else none

/-- The number of days of a month. -/
def daysIn (year month : Nat) : Nat :=
  if month = 2 then
    if year % 4 = 0 && (year % 100 ≠ 0 || year % 400 = 0) then 29 else 28
  else if month = 4 || month = 6 || month = 9 || month = 11 then 30
  else 31

/-- Reads a date. -/
def readDate : Reader Unit := fun cs => do
  let (year, cs) ← readCount 4 0 9999 cs
  let (_, cs) ← readChar '-' cs
  let (month, cs) ← readCount 2 1 12 cs
  let (_, cs) ← readChar '-' cs
  let (_, cs) ← readCount 2 1 (daysIn year month) cs
  some ((), cs)

/-- Reads a time of day. -/
def readTime : Reader Unit := fun cs => do
  let (_, cs) ← readCount 2 0 23 cs
  let (_, cs) ← readChar ':' cs
  let (_, cs) ← readCount 2 0 59 cs
  let (_, cs) ← readChar ':' cs
  let (_, cs) ← readCount 2 0 60 cs
  match cs with
  | '.' :: rest =>
    if (rest.takeWhile isDigit).isEmpty then none else some ((), rest.dropWhile isDigit)
  | cs => some ((), cs)

/-- Reads the distance of a time zone. -/
def readOffset : Reader Unit
  | 'Z' :: rest => some ((), rest)
  | 'z' :: rest => some ((), rest)
  | c :: rest =>
    if c = '+' || c = '-' then do
      let (_, rest) ← readCount 2 0 23 rest
      let (_, rest) ← readChar ':' rest
      let (_, rest) ← readCount 2 0 59 rest
      some ((), rest)
    else none
  | [] => none

/-- Reads a time of day in a time zone, after a date. -/
def readTimeOfDate : Reader Unit
  | c :: rest =>
    if c = 'T' || c = 't' || c = ' ' then do
      let (_, rest) ← readTime rest
      some ((readOffset rest).getD ((), rest))
    else none
  | [] => none

/-- Reads a date, a time, or both. -/
def readMoment : Reader Unit := fun cs =>
  match readDate cs with
  | some (_, rest) => some ((readTimeOfDate rest).getD ((), rest))
  | none => readTime cs

end Toml
end ClusterControl
