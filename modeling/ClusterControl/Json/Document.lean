import ClusterControl.Json.Value
import ClusterControl.Text.Utf8
/-!
# Documents: JSON text as far as it goes

A reader that knows the shape it wants complains about the first thing that is wrong, be it a value
of the wrong kind or a text that is not JSON.  `Doc.ofText` therefore never fails: it turns a text
into a tree in which the place where the text stops being JSON is a leaf, and a typed reader that
walks the tree in order meets both kinds of trouble in the order of the text.

A part of the text that a reader skips is held to less: a lone half of a surrogate pair or a number
out of range is no trouble there.  The tree keeps such leaves apart.
-/

namespace ClusterControl

/-- How a text fails to be JSON. -/
inductive Fault
  | malformed
  | truncated
deriving Repr, DecidableEq, Inhabited

/-- A JSON text as far as it goes. -/
inductive Doc
  | null
  | bool (b : Bool)
  -- a number; none if it is out of range
  | number (value : Option Json)
  -- a text; none if it holds a lone half of a surrogate pair
  | text (value : Option String)
  -- a sequence, and the trouble found where a comma or its end should stand
  | items (xs : List Doc) (close : Option Fault)
  -- an object, and the trouble found where a key, a comma or its end should stand
  | members (ms : List (Option String × Doc)) (close : Option Fault)
  -- no value: the trouble that a reader meets, and the trouble that one who skips it meets
  | fault (read skip : Fault)
deriving Repr, Inhabited

namespace Doc

/-- The four characters that may stand between tokens. -/
def isSpace (c : Char) : Bool :=
  c = ' ' || c = '\n' || c = '\t' || c = '\r'

/-- The text from its next token on. -/
def skipSpace (cs : List Char) : List Char :=
  cs.dropWhile isSpace

/-- A decimal digit. -/
def isDigit (c : Char) : Bool :=
  '0' ≤ c && c ≤ '9'

/-- The value of a decimal digit. -/
def digitValue (c : Char) : Nat :=
  c.toNat - '0'.toNat

/-! ## Texts -/

/-- The number that four hexadecimal digits at the head stand for, and the rest.  A text that ends
within the four bytes ends too early. -/
def hexFour (cs : List Char) : Except Fault (Nat × List Char) :=
  match cs with
  | a :: b :: c :: d :: rest =>
    match hexDigit? a, hexDigit? b, hexDigit? c, hexDigit? d with
    | some a, some b, some c, some d => .ok (a * 4096 + b * 256 + c * 16 + d, rest)
    | _, _, _, _ => .error .malformed
  | short => .error (if Utf8.sizeOf short < 4 then .truncated else .malformed)

/-- The character of an escape that is a single letter. -/
def escapeLetter? (c : Char) : Option Char :=
  if c = '"' then some '"'
  else if c = '\\' then some '\\'
  else if c = '/' then some '/'
  else if c = 'b' then some (Char.ofNat 8)
  else if c = 'f' then some (Char.ofNat 12)
  else if c = 'n' then some '\n'
  else if c = 'r' then some '\r'
  else if c = 't' then some '\t'
  else none

/-- The character that an escaped number stands for, after its four digits: one number, or the two
halves of a surrogate pair. -/
def escapedNumber (n : Nat) (cs : List Char) : Except Fault (Char × List Char) :=
  if 0xDC00 ≤ n ∧ n ≤ 0xDFFF then .error .malformed
  else if 0xD800 ≤ n ∧ n ≤ 0xDBFF then
    match cs with
    | [] => .error .truncated
    | '\\' :: [] => .error .truncated
    | '\\' :: 'u' :: rest => do
      let (low, rest) ← hexFour rest
      if 0xDC00 ≤ low ∧ low ≤ 0xDFFF then
        .ok (Char.ofNat (0x10000 + (n - 0xD800) * 0x400 + (low - 0xDC00)), rest)
      else .error .malformed
    | _ => .error .malformed
  else .ok (Char.ofNat n, cs)

/-- Reads a text after its opening quote: its characters, and what follows its closing quote.  At
most `fuel` characters or escapes are read. -/
def readText : Nat → List Char → Except Fault (List Char × List Char)
  | _, [] => .error .truncated
  | 0, _ => .error .truncated
  | fuel + 1, c :: cs =>
    if c = '"' then .ok ([], cs)
    else if c.toNat < 0x20 then .error .malformed
    else if c = '\\' then
      match cs with
      | [] => .error .truncated
      | e :: rest =>
        if e = 'u' then do
          let (n, rest) ← hexFour rest
          let (x, rest) ← escapedNumber n rest
          let (xs, rest) ← readText fuel rest
          .ok (x :: xs, rest)
        else
          match escapeLetter? e with
          | none => .error .malformed
          | some x => do
            let (xs, rest) ← readText fuel rest
            .ok (x :: xs, rest)
    else do
      let (xs, rest) ← readText fuel cs
      .ok (c :: xs, rest)

/-- Skips a text after its opening quote.  At most `fuel` characters or escapes are skipped. -/
def skipText : Nat → List Char → Except Fault (List Char)
  | _, [] => .error .truncated
  | 0, _ => .error .truncated
  | fuel + 1, c :: cs =>
    if c = '"' then .ok cs
    else if c.toNat < 0x20 then .error .malformed
    else if c = '\\' then
      match cs with
      | [] => .error .truncated
      | e :: rest =>
        if e = 'u' then do
          let (_, rest) ← hexFour rest
          skipText fuel rest
        else
          match escapeLetter? e with
          | none => .error .malformed
          | some _ => skipText fuel rest
    else skipText fuel cs

/-- A text after its opening quote as a reader and as one who skips it sees it, with the rest. -/
def lexText (cs : List Char) : Except (Fault × Fault) (Option String × List Char) :=
  match readText cs.length cs, skipText cs.length cs with
  | .ok (value, rest), .ok _ => .ok (some (String.ofList value), rest)
  | .error _, .ok rest => .ok (none, rest)
  | .error read, .error skip => .error (read, skip)
  | .ok _, .error skip => .error (skip, skip)

/-! ## Numbers -/

/-- The greatest integer that a number without a sign keeps exactly. -/
def maxUnsigned : Nat := UInt64.size - 1

/-- The leading digits of a number that fit sixty-four bits, and how many are left over. -/
def leadingDigits : Nat → List Char → Nat × Nat
  | n, [] => (n, 0)
  | n, d :: ds =>
    if n * 10 + digitValue d ≤ maxUnsigned then leadingDigits (n * 10 + digitValue d) ds
    else (n, ds.length + 1)

/-- `n` continued by the digits after the point, as many as fit sixty-four bits, and how many were
used. -/
def continueDigits : Nat → List Char → Nat × Nat
  | n, [] => (n, 0)
  | n, d :: ds =>
    if n * 10 + digitValue d ≤ maxUnsigned then
      let (m, used) := continueDigits (n * 10 + digitValue d) ds
      (m, used + 1)
    else (n, 0)

/-- The power of ten with this exponent as a floating-point number. -/
def powerOfTen (n : Nat) : Float :=
  Float.ofScientific 1 false n

/-- A floating-point number times a power of ten, in steps that stay in range; `none` if the result
is out of range. -/
def scale : Nat → Float → Int → Option Float
  | 0, _, _ => none
  | fuel + 1, f, e =>
    if e.natAbs ≤ 308 then
      if 0 ≤ e then
        let r := f * powerOfTen e.natAbs
        if r.isInf then none else some r
      else some (f / powerOfTen e.natAbs)
    else if f == 0.0 then some f
    else if 0 ≤ e then none
    else scale fuel (f / powerOfTen 308) (e + 308)

/-- An exponent that is larger than this is as good as infinite. -/
def maxExponent : Nat := UInt32.size / 2 - 1

/-- The number with these digits before and after the point and this exponent, as a floating-point
number; `none` if it is out of range. -/
def realOf (negative : Bool) (whole part : List Char) (exponent : Int) : Option Json :=
  let (n, extra) := leadingDigits 0 whole
  let (n, used) := continueDigits n part
  let sign (f : Float) : Json := .real (if negative then (-f).toBits else f.toBits)
  if maxExponent < exponent.natAbs then
    if n ≠ 0 ∧ 0 < exponent then none else some (sign 0.0)
  else
    let e := (extra : Int) - (used : Int) + exponent
    (scale (e.natAbs / 308 + 2) n.toUInt64.toFloat e).map sign

/-- The number that digits without a point or an exponent stand for. -/
def integerOf (negative : Bool) (digits : List Char) : Option Json :=
  let n := digits.foldl (fun n d => n * 10 + digitValue d) 0
  if negative then
    if 0 < n ∧ n ≤ UInt64.size / 2 then some (.num (-(n : Int))) else realOf true digits [] 0
  else if n ≤ maxUnsigned then some (.num n) else realOf false digits [] 0

/-- An exponent after its `e`: its value and the rest. -/
def lexExponent (cs : List Char) : Except (Fault × Fault) (Int × List Char) :=
  let (negative, cs) := match cs with
    | '+' :: rest => (false, rest)
    | '-' :: rest => (true, rest)
    | rest => (false, rest)
  match cs.takeWhile isDigit with
  | [] => .error (if cs.isEmpty then .truncated else .malformed, .malformed)
  | digits =>
    let n : Int := (digits.foldl (fun n d => n * 10 + digitValue d) 0 : Nat)
    .ok (if negative then -n else n, cs.dropWhile isDigit)

/-- A number after the digits before its point. -/
def lexFraction (negative : Bool) (whole cs : List Char) :
    Except (Fault × Fault) (Option Json × List Char) := do
  let (part, plain, cs) ← match cs with
    | '.' :: rest =>
      match rest.takeWhile isDigit with
      | [] => .error (if rest.isEmpty then .truncated else .malformed, .malformed)
      | part => .ok (part, false, rest.dropWhile isDigit)
    | rest => .ok ([], true, rest)
  match cs with
  | c :: rest =>
    if c = 'e' ∨ c = 'E' then do
      let (e, rest) ← lexExponent rest
      .ok (realOf negative whole part e, rest)
    else if plain then .ok (integerOf negative whole, cs)
    else .ok (realOf negative whole part 0, cs)
  | [] => if plain then .ok (integerOf negative whole, cs) else .ok (realOf negative whole part 0, cs)

/-- A number after its sign. -/
def lexUnsigned (negative : Bool) (cs : List Char) :
    Except (Fault × Fault) (Option Json × List Char) :=
  match cs with
  | '0' :: rest =>
    match rest with
    | d :: _ => if isDigit d then .error (.malformed, .malformed) else lexFraction negative ['0'] rest
    | [] => lexFraction negative ['0'] rest
  | d :: rest =>
    if isDigit d then
      lexFraction negative (d :: rest.takeWhile isDigit) (rest.dropWhile isDigit)
    else .error (.malformed, .malformed)
  | [] => .error (.truncated, .malformed)

/-! ## Values -/

/-- Compares the text with the rest of a word. -/
def lexWord (value : Doc) : List Char → List Char → Doc × List Char
  | [], cs => (value, cs)
  | _ :: _, [] => (fault .truncated .truncated, [])
  | w :: ws, c :: cs => if w = c then lexWord value ws cs else (fault .malformed .malformed, c :: cs)

/-- A value that is no sequence and no object, from its first character. -/
def lexAtom (c : Char) (cs : List Char) : Doc × List Char :=
  if c = 'n' then lexWord null ['u', 'l', 'l'] cs
  else if c = 't' then lexWord (bool true) ['r', 'u', 'e'] cs
  else if c = 'f' then lexWord (bool false) ['a', 'l', 's', 'e'] cs
  else if c = '"' then
    match lexText cs with
    | .ok (value, rest) => (text value, rest)
    | .error (read, skip) => (fault read skip, [])
  else if c = '-' ∨ isDigit c then
    match (if c = '-' then lexUnsigned true cs else lexUnsigned false (c :: cs)) with
    | .ok (value, rest) => (number value, rest)
    | .error (read, skip) => (fault read skip, [])
  else (fault .malformed .malformed, c :: cs)

mutual

/-- The value at the head of a text, and the rest.  At most `fuel` values and separators are
looked at. -/
def lexValue : Nat → List Char → Doc × List Char
  | 0, cs => (fault .malformed .malformed, cs)
  | fuel + 1, cs =>
    match skipSpace cs with
    | [] => (fault .truncated .truncated, [])
    | '[' :: rest =>
      match skipSpace rest with
      | ']' :: rest => (items [] none, rest)
      | [] => (items [] (some .truncated), [])
      | rest =>
        let (xs, close, rest) := lexItems fuel rest
        (items xs close, rest)
    | '{' :: rest =>
      match skipSpace rest with
      | '}' :: rest => (members [] none, rest)
      | [] => (members [] (some .truncated), [])
      | rest =>
        let (ms, close, rest) := lexMembers fuel rest
        (members ms close, rest)
    | c :: rest => lexAtom c rest

/-- The items of a sequence from a value on, up to its end. -/
def lexItems : Nat → List Char → List Doc × Option Fault × List Char
  | 0, cs => ([], some .malformed, cs)
  | fuel + 1, cs =>
    let (x, rest) := lexValue fuel cs
    match skipSpace rest with
    | ']' :: rest => ([x], none, rest)
    | ',' :: rest =>
      match skipSpace rest with
      | ']' :: rest => ([x, fault .malformed .malformed], none, rest)
      | [] => ([x, fault .truncated .truncated], none, [])
      | rest =>
        let (xs, close, rest) := lexItems fuel rest
        (x :: xs, close, rest)
    | [] => ([x], some .truncated, [])
    | rest => ([x], some .malformed, rest)

/-- The members of an object from a key on, up to its end. -/
def lexMembers : Nat → List Char → List (Option String × Doc) × Option Fault × List Char
  | 0, cs => ([], some .malformed, cs)
  | fuel + 1, cs =>
    match cs with
    | '"' :: rest =>
      match lexText rest with
      | .error (read, _) => ([], some read, [])
      | .ok (key, rest) =>
        match skipSpace rest with
        | ':' :: rest =>
          let (value, rest) := lexValue fuel rest
          match skipSpace rest with
          | '}' :: rest => ([(key, value)], none, rest)
          | ',' :: rest =>
            match skipSpace rest with
            | [] => ([(key, value)], some .truncated, [])
            | rest =>
              let (ms, close, rest) := lexMembers fuel rest
              ((key, value) :: ms, close, rest)
          | [] => ([(key, value)], some .truncated, [])
          | rest => ([(key, value)], some .malformed, rest)
        | [] => ([(key, fault .truncated .truncated)], some .truncated, [])
        | rest => ([(key, fault .malformed .malformed)], some .malformed, rest)
    | [] => ([], some .truncated, [])
    | rest => ([], some .malformed, rest)

end

/-- The value that a text begins with, and whether anything but blanks follows it. -/
def ofChars (cs : List Char) : Doc × Bool :=
  let (d, rest) := lexValue (2 * cs.length + 2) cs
  (d, !(skipSpace rest).isEmpty)

/-- The value that a text begins with, and whether anything but blanks follows it. -/
def ofText (s : String) : Doc × Bool :=
  ofChars s.toList

/-- Two escapes that stand for half a surrogate pair each: whatever stands beside them, no reader
takes them, and who skips a text skips them. -/
def lostEscapes : List Char :=
  "\\ud800\\ud800".toList

/-- The characters of bytes that need not be text.  In place of an ill-formed stretch stands what no
reader takes: behind a backslash a character that cannot be escaped, and elsewhere escapes. -/
def charsOfBytes (bytes : List UInt8) : List Char :=
  go bytes.length false bytes
where
  -- whether a backslash stands before the bytes that escapes what follows it
  go : Nat → Bool → List UInt8 → List Char
    | 0, _, _ => []
    | fuel + 1, escaped, bytes =>
      match Utf8.lead bytes with
      | .finished => []
      | .scalar c more => c :: go fuel (c = '\\' && !escaped) (bytes.drop (more + 1))
      | .broken more =>
        (if escaped then [Utf8.replacement] else lostEscapes) ++
          go fuel false (bytes.drop (more + 1))

/-- The value that bytes begin with, and whether anything but blanks follows it. -/
def ofBytes (bytes : List UInt8) : Doc × Bool :=
  ofChars (charsOfBytes bytes)

end Doc
end ClusterControl
