import ClusterControl.Nodes.Echo
import ClusterControl.Nodes.ExitStatus
import ClusterControl.Rehearsal.Script.Word
/-!
# Programs that scripts call

What the programs write that a script can call and that do nothing but write.  A form is a text with
places for arguments; escapes in a text stand for bytes.
-/

namespace ClusterControl
namespace Script

/-! ## Patterns -/

/-- A text fits a pattern, in which unprotected stars stand for any text and unprotected question
marks for any character. -/
def fits : List (Char × Bool) → List Char → Bool
  | [], cs => cs.isEmpty
  | ('*', false) :: ps, [] => fits ps []
  | ('*', false) :: ps, c :: cs => fits ps (c :: cs) || fits (('*', false) :: ps) cs
  | ('?', false) :: ps, _ :: cs => fits ps cs
  | (p, _) :: ps, c :: cs => p = c && fits ps cs
  | _ :: _, [] => false
termination_by ps cs => (cs.length, ps.length)

/-- A text without its shortest or longest beginning or end that fits a pattern. -/
def trim (front longest : Bool) (pattern : List Char) (cs : List Char) : List Char :=
  let pattern := pattern.map fun c => (c, false)
  let lengths := List.range (cs.length + 1)
  let fitting := (if longest then lengths.reverse else lengths).find? fun n =>
    fits pattern (if front then cs.take n else cs.drop (cs.length - n))
  match fitting with
  | some n => if front then cs.drop n else cs.take (cs.length - n)
  | none => cs

/-! ## Escapes and forms -/

/-- The bytes of a text with escapes, and whether it says that it is the last one.  An escaped
number is octal; where `zero` holds, it begins with a zero that does not count. -/
def unescape (zero : Bool) : Nat → List Char → List UInt8 × Bool
  | 0, _ => ([], false)
  | _, [] => ([], false)
  | n + 1, '\\' :: c :: rest =>
    let put (b : UInt8) (rest : List Char) :=
      let (bytes, last) := unescape zero n rest
      (b :: bytes, last)
    let octal (cs : List Char) :=
      let digits := (cs.take 3).takeWhile fun c => '0' ≤ c && c ≤ '7'
      put ((digits.foldl (fun (n : Nat) (c : Char) => n * 8 + (c.toNat - 48)) 0).toUInt8)
        (cs.drop digits.length)
    if c = 'c' then ([], true)
    else if c = '0' && zero then octal rest
    else if '0' ≤ c && c ≤ '7' && !zero then octal (c :: rest)
    else
      match [('a', 7), ('b', 8), ('f', 12), ('n', 10), ('r', 13), ('t', 9), ('v', 11),
        ('\\', 92)].lookup c with
      | some (b : UInt8) => put b rest
      | none =>
        let (bytes, last) := unescape zero n (c :: rest)
        (92 :: bytes, last)
  | n + 1, c :: rest =>
    let (bytes, last) := unescape zero n rest
    (Utf8.encodeChar c ++ bytes, last)

/-- The bytes of a text with escapes. -/
def unescaped (zero : Bool) (text : String) : List UInt8 × Bool :=
  unescape zero (text.length + 1) text.toList

/-- What a program writes that repeats its arguments. -/
def echoed (arguments : List String) : List UInt8 :=
  let (silent, arguments) := match arguments with
    | "-n" :: rest => (true, rest)
    | arguments => (false, arguments)
  let (bytes, last) := unescaped true (" ".intercalate arguments)
  if silent || last then bytes else bytes ++ [10]

/-- A place for an argument in a form. -/
structure Place where
  left : Bool
  zeros : Bool
  width : Nat
  -- the greatest length of a text, or the least number of digits
  bound : Option Nat
  kind : Char

/-- The place that begins behind a percent sign, and what is left. -/
def Place.read (cs : List Char) : Place × List Char :=
  let flags := cs.takeWhile fun c => ['-', '0', ' ', '+', '#'].contains c
  let cs := cs.drop flags.length
  let width := cs.takeWhile Char.isDigit
  let cs := cs.drop width.length
  let (bound, cs) := match cs with
    | '.' :: cs =>
      (some ((digits? (cs.takeWhile Char.isDigit)).getD 0), cs.dropWhile Char.isDigit)
    | cs => (none, cs)
  (⟨flags.contains '-', flags.contains '0', (digits? width).getD 0, bound, cs.headD '%'⟩, cs.drop 1)

/-- An argument, written as a place says. -/
def Place.fill (p : Place) (argument : String) : List UInt8 :=
  let number := argument.toInt?.getD 0
  let isNumber := ['d', 'i', 'u', 'x', 'X', 'o'].contains p.kind
  let base := if p.kind = 'o' then 8 else if p.kind = 'x' || p.kind = 'X' then 16 else 10
  let digits := Nat.toDigits base number.natAbs
  let digits := if p.kind = 'X' then digits.map Char.toUpper else digits
  let sign := if number < 0 then ['-'] else []
  let body : List UInt8 :=
    if isNumber then
      let least := if p.zeros && !p.left then p.width - sign.length else p.bound.getD 1
      Utf8.encode (String.ofList (sign ++ List.replicate (least - digits.length) '0' ++ digits))
    else if p.kind = 'b' then (unescaped true argument).1
    else if p.kind = 'c' then Utf8.encode (String.ofList (argument.toList.take 1))
    else
      match p.bound with
      | some n => (Utf8.encode argument).take n
      | none => Utf8.encode argument
  let spaces := List.replicate (p.width - body.length) (32 : UInt8)
  if p.left then body ++ spaces else spaces ++ body

/-- What a program writes that fills its arguments into a form, and the arguments left over. -/
def filled : Nat → List Char → List String → List UInt8 × List String
  | 0, _, arguments => ([], arguments)
  | _, [], arguments => ([], arguments)
  | n + 1, '%' :: '%' :: form, arguments =>
    let (bytes, left) := filled n form arguments
    (37 :: bytes, left)
  | n + 1, '%' :: c :: form, arguments =>
    let (place, form) := Place.read (c :: form)
    let (bytes, left) := filled n form (arguments.drop 1)
    (place.fill (arguments.headD "") ++ bytes, left)
  | n + 1, c :: form, arguments =>
    let plain := (c :: form).takeWhile (· ≠ '%')
    let (bytes, left) := filled n ((c :: form).dropWhile (· ≠ '%')) arguments
    ((unescaped false (String.ofList plain)).1 ++ bytes, left)

/-- What a program writes that fills its arguments into a form as often as they last. -/
def filledOften (form : List Char) : Nat → List String → List UInt8
  | 0, _ => []
  | n + 1, arguments =>
    let (bytes, left) := filled (form.length + 1) form arguments
    if left.isEmpty || left.length = arguments.length then bytes
    else bytes ++ filledOften form n left

/-! ## Times and signals -/

/-- The milliseconds of a number of seconds with decimals. -/
def millis (text : String) : Nat :=
  let cs := text.toList
  let whole := (digits? (cs.takeWhile Char.isDigit)).getD 0
  let part := ((cs.dropWhile Char.isDigit).drop 1).takeWhile Char.isDigit
  whole * 1000 + (digits? ((part ++ ['0', '0', '0']).take 3)).getD 0

/-- The signal that a word names, with or without the marks that may stand before it. -/
def signalOf (word : String) : Option Nat :=
  let cs := word.toList
  let cs := if cs.head? = some '-' then cs.drop 1 else cs
  match digits? cs with
  | some n => some n
  | none =>
    let name := String.ofList cs
    signalNumber? (if "SIG".toList.isPrefixOf cs then String.ofList (cs.drop 3) else name)

/-- The signal and the receivers that the arguments of a program name that sends one. -/
def sending : List String → Nat × List String
  | "-s" :: name :: rest => ((signalOf name).getD 15, rest)
  | word :: rest =>
    if word.toList.head? = some '-' then ((signalOf word).getD 15, rest) else (15, word :: rest)
  | [] => (15, [])

/-! ## Programs that write -/

/-- What a program does that only writes. -/
structure Program where
  out : List UInt8 := []
  err : List UInt8 := []
  code : Nat := 0

namespace Program

/-- What a program reads that reads files, or its input if none is named. -/
def reading (files : List (String × List UInt8)) (input : List UInt8) (name : String)
    (paths : List String) : Program :=
  if paths.isEmpty then { out := input }
  else
    paths.foldl (fun p path =>
      match if path = "-" then some input else files.lookup path with
      | some bytes => { p with out := p.out ++ bytes }
      | none =>
        { p with
          err := p.err ++ Utf8.encode (name ++ ": " ++ path ++ ": No such file or directory\n")
          code := 1 }) {}

/-- The first lines of a text. -/
def firstLines (n : Nat) (bytes : List UInt8) : List UInt8 :=
  (Echo.rawLines bytes).take n |>.flatMap fun l => if l.ended then l.bytes ++ [10] else l.bytes

/-- The last lines of a text. -/
def lastLines (n : Nat) (bytes : List UInt8) : List UInt8 :=
  let lines := Echo.rawLines bytes
  (lines.drop (lines.length - n)).flatMap fun l => if l.ended then l.bytes ++ [10] else l.bytes

/-- The numbers from one to another, a line each. -/
def count (first last : Nat) : List UInt8 :=
  (List.range (last + 1 - first)).flatMap fun i => Utf8.encode (toString (first + i) ++ "\n")

/-- The bytes that a set of bytes names, in which ranges may occur. -/
def setOf (text : String) : List UInt8 :=
  let rec ranges : List UInt8 → List UInt8
    | a :: 45 :: b :: rest =>
      (List.range (b.toNat + 1 - a.toNat)).map (fun i => (a.toNat + i).toUInt8) ++ ranges rest
    | a :: rest => a :: ranges rest
    | [] => []
  ranges (unescaped false text).1

/-- Each byte of the first set becomes the byte of the second at its place, or the last of it. -/
def exchange (front back : List UInt8) (bytes : List UInt8) : List UInt8 :=
  bytes.map fun b =>
    match front.idxOf? b with
    | some i => (back[i]? <|> back.getLast?).getD b
    | none => b

/-- What a program does that only writes, given the files, its input, its name and its arguments. -/
def work? (files : List (String × List UInt8)) (input : List UInt8) (name : String)
    (arguments : List String) : Option Program :=
  match name, arguments with
  | "echo", arguments => some { out := echoed arguments }
  | "printf", form :: arguments =>
    some { out := filledOften form.toList (arguments.length + 1) arguments }
  | "cat", paths => some (reading files input name paths)
  | "seq", [last] => some { out := count 1 (last.toNat?.getD 0) }
  | "seq", [first, last] => some { out := count (first.toNat?.getD 0) (last.toNat?.getD 0) }
  | "head", ["-c", n, "/dev/zero"] => some { out := List.replicate (n.toNat?.getD 0) 0 }
  | "head", "-c" :: n :: paths =>
    let p := reading files input name paths
    some { p with out := p.out.take (n.toNat?.getD 0) }
  | "head", "-n" :: n :: paths =>
    let p := reading files input name paths
    some { p with out := firstLines (n.toNat?.getD 0) p.out }
  | "tail", "-n" :: n :: paths =>
    let p := reading files input name paths
    some { p with out := lastLines (n.toNat?.getD 0) p.out }
  | "tr", ["-d", set] => some { out := input.filter fun b => !(setOf set).contains b }
  | "tr", [front, back] => some { out := exchange (setOf front) (setOf back) input }
  | _, _ => none

end Program
end Script
end ClusterControl
