/-!
# Words of scripts

A script for a rehearsed node is a text of commands in the manner of a shell.  This module splits
it into words and signs.  A word is made of pieces: text, which may be protected by quotes or a
backslash, and values that are put in when the word is used.
-/

namespace ClusterControl
namespace Script

/-- A piece of a word. -/
inductive Piece
  -- text; protected text stands for itself wherever it occurs
  | text (chars : List Char) (protect : Bool)
  -- the value of a name; a protected value is not split
  | value (name : String) (protect : Bool)
  -- the value of a name without the shortest or longest beginning or end that fits a pattern
  | trimmed (name : String) (front longest : Bool) (pattern : List Char) (protect : Bool)
  -- the value of a name, or a text if there is none
  | fallback (name : String) (text : List Char) (protect : Bool)
  | size (name : String) (protect : Bool)
  | sum (cs : List Char) (protect : Bool)
  | output (script : List Char) (protect : Bool)
deriving Repr, DecidableEq

/-- A word. -/
abbrev Word := List Piece

/-- What a script is made of. -/
inductive Lexeme
  | word (w : Word)
  | sign (s : String)
  -- a sign that leads the output or input with a number elsewhere
  | redirect (channel : Nat) (sign : String)
deriving Repr, DecidableEq

/-- A character that ends a word. -/
def endsWord (c : Char) : Bool :=
  [' ', '\t', '\n', ';', '&', '|', '<', '>', '(', ')'].contains c

/-- A character of a name. -/
def isNameChar (c : Char) : Bool :=
  c.isAlphanum || c = '_'

/-- The text up to the bracket that closes it, and what is left; so many brackets are open in it. -/
def readEnclosed : Nat → List Char → List Char × List Char
  | _, [] => ([], [])
  | depth, c :: rest =>
    if c = ')' && depth = 0 then ([], rest)
    else
      let depth := if c = '(' then depth + 1 else if c = ')' then depth - 1 else depth
      let (inside, rest) := readEnclosed depth rest
      (c :: inside, rest)

/-- The value that a text between braces asks for. -/
def readBraced (protect : Bool) (inside : List Char) : Piece :=
  let word := inside.takeWhile isNameChar
  let name := String.ofList (if word.isEmpty then inside.take 1 else word)
  match inside.drop name.length with
  | '#' :: '#' :: pattern => .trimmed name true true pattern protect
  | '#' :: pattern => .trimmed name true false pattern protect
  | '%' :: '%' :: pattern => .trimmed name false true pattern protect
  | '%' :: pattern => .trimmed name false false pattern protect
  | ':' :: '-' :: text => .fallback name text protect
  | '-' :: text => .fallback name text protect
  | rest =>
    if name = "#" && !rest.isEmpty then .size (String.ofList rest) protect else .value name protect

/-- The value that follows a dollar sign, and what is left. -/
def readValue (protect : Bool) (cs : List Char) : Piece × List Char :=
  match cs with
  | '{' :: rest =>
    (readBraced protect (rest.takeWhile (· ≠ '}')), (rest.dropWhile (· ≠ '}')).drop 1)
  | '(' :: rest =>
    let (inside, rest) := readEnclosed 0 rest
    match inside, inside.getLast? with
    | '(' :: sum, some ')' => (.sum sum.dropLast protect, rest)
    | script, _ => (.output script protect, rest)
  | c :: rest =>
    if c.isDigit || ['#', '$', '?', '@', '*', '!'].contains c then
      (.value (String.singleton c) protect, rest)
    else if isNameChar c then
      (.value (String.ofList (cs.takeWhile isNameChar)) protect, cs.dropWhile isNameChar)
    else (.text ['$'] protect, cs)
  | [] => (.text ['$'] protect, [])

/-- The pieces between double quotes, and what is left. -/
def readQuoted : Nat → List Char → Word × List Char
  | 0, cs => ([], cs)
  | _, [] => ([], [])
  | n + 1, c :: rest =>
    if c = '"' then ([], rest)
    else if c = '$' then
      let (piece, rest) := readValue true rest
      let (word, rest) := readQuoted n rest
      (piece :: word, rest)
    else if c = '\x60' then
      let (word, rest') := readQuoted n ((rest.dropWhile (· ≠ '\x60')).drop 1)
      (.output (rest.takeWhile (· ≠ '\x60')) true :: word, rest')
    else
      match c, rest with
      | '\\', d :: more =>
        let kept := if ['$', '"', '\\', '\x60'].contains d then [d] else ['\\', d]
        let (word, rest) := readQuoted n more
        (.text kept true :: word, rest)
      | _, _ =>
        let (word, rest) := readQuoted n rest
        (.text [c] true :: word, rest)

/-- A word, and what is left. -/
def readWord : Nat → List Char → Word × List Char
  | 0, cs => ([], cs)
  | _, [] => ([], [])
  | n + 1, c :: rest =>
    if endsWord c then ([], c :: rest)
    else
      let (front, rest) : Word × List Char :=
        if c = '\x27' then
          ([.text (rest.takeWhile (· ≠ '\x27')) true], (rest.dropWhile (· ≠ '\x27')).drop 1)
        else if c = '"' then
          let (word, rest) := readQuoted rest.length rest
          (.text [] true :: word, rest)
        else if c = '$' then
          let (piece, rest) := readValue false rest
          ([piece], rest)
        else if c = '\x60' then
          ([.output (rest.takeWhile (· ≠ '\x60')) false],
            (rest.dropWhile (· ≠ '\x60')).drop 1)
        else
          match c, rest with
          | '\\', d :: more => (if d = '\n' then [] else [Piece.text [d] true], more)
          | _, _ => ([.text [c] false], rest)
      let (word, rest) := readWord n rest
      (front ++ word, rest)

/-- The signs of several characters and of one, longer ones first. -/
def signs : List String := [";;", "&&", "||", ";", "&", "|", "(", ")", "\n"]

/-- The signs that lead elsewhere, longer ones first. -/
def redirectSigns : List String := [">&", ">>", "<&", ">", "<"]

/-- The sign that a text begins with. -/
def leadingSign? (known : List String) (cs : List Char) : Option String :=
  known.find? fun sign => sign.toList.isPrefixOf cs

/-- The number that a word of digits stands for. -/
def digits? (cs : List Char) : Option Nat :=
  if cs.isEmpty || !cs.all Char.isDigit then none else (String.ofList cs).toNat?

/-- The lexemes of a text. -/
def lexemes : Nat → List Char → List Lexeme
  | 0, _ => []
  | _, [] => []
  | n + 1, c :: rest =>
    let cs := c :: rest
    if c = ' ' || c = '\t' then lexemes n rest
    else if c = '#' then lexemes n (rest.dropWhile (· ≠ '\n'))
    else
      match leadingSign? redirectSigns cs with
      | some sign =>
        let channel := if sign.toList.head? = some '<' then 0 else 1
        .redirect channel sign :: lexemes n (cs.drop sign.length)
      | none =>
        match leadingSign? signs cs with
        | some sign => .sign sign :: lexemes n (cs.drop sign.length)
        | none =>
          let number := cs.takeWhile Char.isDigit
          match digits? number, leadingSign? redirectSigns (cs.drop number.length) with
          | some channel, some sign =>
            .redirect channel sign :: lexemes n (cs.drop (number.length + sign.length))
          | _, _ =>
            let (word, rest) := readWord cs.length cs
            .word word :: lexemes n rest

/-- The lexemes of a script. -/
def lexemesOf (script : String) : List Lexeme :=
  lexemes (script.length + 1) script.toList

/-- The characters of a piece that stands for itself and is not protected. -/
def Piece.plain? : Piece → Option (List Char)
  | .text cs false => some cs
  | _ => none

/-- The plain text of a word that stands for itself and is not protected, such as a keyword. -/
def plain? (w : Word) : Option String :=
  (List.mapM Piece.plain? w).map fun parts => String.ofList parts.flatten

end Script
end ClusterControl
