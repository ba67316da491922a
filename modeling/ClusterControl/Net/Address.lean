import ClusterControl.Text.Utf8
/-!
# Network addresses

Internet addresses of both kinds and socket addresses, each with the text it is written as and the
reader of that text.  Of an address of the longer kind the longest run of zeros is left out, the
first of several that are equally long, and an address that maps one of the shorter kind shows it.
-/

namespace ClusterControl

/-- A reader of a part of a text: what it read, and what follows. -/
abbrev Chars.Reader (α : Type) := List Char → Option (α × List Char)

namespace Chars

/-- Reads one given character. -/
def given (c : Char) : Reader Unit
  | [] => none
  | x :: rest => if x = c then some ((), rest) else none

/-- The value of a digit to the base of ten or sixteen. -/
def digitIn? (base : Nat) (c : Char) : Option Nat :=
  (hexDigit? c).filter (· < base)

/-- The number that digits stand for. -/
def numberOf (base : Nat) (digits : List Char) : Nat :=
  digits.foldl (fun n c => n * base + (digitIn? base c).getD 0) 0

/-- Reads all digits that stand at the head: at least one and not more than `most`, no zero before
another digit unless `padded`, and a number of at most `max`. -/
def number (base most : Nat) (padded : Bool) (max : Nat) : Reader Nat := fun cs =>
  let digits := cs.takeWhile fun c => (digitIn? base c).isSome
  let n := numberOf base digits
  if digits.isEmpty || most < digits.length then none
  else if !padded && digits.head? = some '0' && 1 < digits.length then none
  else if max < n then none
  else some (n, cs.dropWhile fun c => (digitIn? base c).isSome)

end Chars

/-- An address of four bytes. -/
structure IPv4 where
  a : UInt8
  b : UInt8
  c : UInt8
  d : UInt8
deriving Repr, DecidableEq

namespace IPv4

/-- The address with this number. -/
def ofNat (n : Nat) : IPv4 :=
  ⟨(n / 16777216).toUInt8, (n / 65536).toUInt8, (n / 256).toUInt8, n.toUInt8⟩

/-- The decimal digits of a byte. -/
def byteChars (b : UInt8) : List Char :=
  Nat.toDigits 10 b.toNat

/-- The four numbers with points between them. -/
def chars (ip : IPv4) : List Char :=
  byteChars ip.a ++ '.' :: (byteChars ip.b ++ '.' :: (byteChars ip.c ++ '.' :: byteChars ip.d))

/-- One number of an address. -/
def readByte : Chars.Reader UInt8 := fun cs =>
  (Chars.number 10 3 false 255 cs).map fun (n, rest) => (n.toUInt8, rest)

/-- Reads four numbers with points between them. -/
def read : Chars.Reader IPv4 := fun cs => do
  let (a, cs) ← readByte cs
  let (_, cs) ← Chars.given '.' cs
  let (b, cs) ← readByte cs
  let (_, cs) ← Chars.given '.' cs
  let (c, cs) ← readByte cs
  let (_, cs) ← Chars.given '.' cs
  let (d, cs) ← readByte cs
  some (⟨a, b, c, d⟩, cs)

/-- The upper half of an address. -/
def upper (ip : IPv4) : UInt16 :=
  (ip.a.toNat * 256 + ip.b.toNat).toUInt16

/-- The lower half of an address. -/
def lower (ip : IPv4) : UInt16 :=
  (ip.c.toNat * 256 + ip.d.toNat).toUInt16

/-- The address with these halves. -/
def ofHalves (upper lower : UInt16) : IPv4 :=
  ⟨(upper.toNat / 256).toUInt8, upper.toNat.toUInt8, (lower.toNat / 256).toUInt8,
    lower.toNat.toUInt8⟩

end IPv4

/-- An address of eight groups of sixteen bits. -/
structure IPv6 where
  groups : List UInt16
  length_groups : groups.length = 8
deriving Repr, DecidableEq

namespace IPv6

/-- The hexadecimal digits of a group. -/
def groupChars (g : UInt16) : List Char :=
  Nat.toDigits 16 g.toNat

/-- Groups with colons between them. -/
def joined : List UInt16 → List Char
  | [] => []
  | [g] => groupChars g
  | g :: gs => groupChars g ++ ':' :: joined gs

/-- The number of zeros that groups begin with. -/
def zerosAt (groups : List UInt16) : Nat :=
  (groups.takeWhile (· = 0)).length

/-- The place and length of the longest run of zeros, the first of several that are equally long. -/
def zeroRun (groups : List UInt16) : Nat × Nat :=
  (List.range groups.length).foldl
    (fun best i =>
      let run := zerosAt (groups.drop i)
      if best.2 < run then (i, run) else best)
    (0, 0)

/-- The address that this one maps, if it maps one. -/
def mapped? (ip : IPv6) : Option IPv4 :=
  match ip.groups with
  | [0, 0, 0, 0, 0, 0xFFFF, x, y] => some (IPv4.ofHalves x y)
  | _ => none

/-- The text of an address. -/
def chars (ip : IPv6) : List Char :=
  match ip.mapped? with
  | some v4 => "::ffff:".toList ++ v4.chars
  | none =>
    let (start, run) := zeroRun ip.groups
    if 1 < run then
      joined (ip.groups.take start) ++ "::".toList ++ joined (ip.groups.drop (start + run))
    else joined ip.groups

/-- A colon, except before the first group. -/
def separator (first : Bool) : Chars.Reader Unit := fun cs =>
  if first then some ((), cs) else Chars.given ':' cs

/-- The two groups of an address of the shorter kind. -/
def readMapped (first : Bool) : Chars.Reader IPv4 := fun cs => do
  let (_, cs) ← separator first cs
  IPv4.read cs

/-- One group. -/
def readGroup (first : Bool) : Chars.Reader UInt16 := fun cs => do
  let (_, cs) ← separator first cs
  let (n, cs) ← Chars.number 16 4 true 0xFFFF cs
  some (n.toUInt16, cs)

/-- Reads as many groups as there are, up to a limit.  Where two or more may still come, the last
two may be written as an address of the shorter kind, which ends the groups; the answer says if it
did. -/
def readGroups : Nat → Bool → List Char → List UInt16 × Bool × List Char
  | 0, _, cs => ([], false, cs)
  | left + 1, first, cs =>
    match (if 0 < left then readMapped first cs else none) with
    | some (v4, rest) => ([v4.upper, v4.lower], true, rest)
    | none =>
      match readGroup first cs with
      | none => ([], false, cs)
      | some (g, rest) =>
        let (gs, ended, rest) := readGroups left false rest
        (g :: gs, ended, rest)

/-- The address with these eight groups. -/
def ofGroups? (groups : List UInt16) : Option IPv6 :=
  if h : groups.length = 8 then some ⟨groups, h⟩ else none

/-- Reads an address: eight groups, or groups before and after a double colon that stands for one
or more zeros. -/
def read : Chars.Reader IPv6 := fun cs =>
  let (head, ended, cs) := readGroups 8 true cs
  if head.length = 8 then (ofGroups? head).map (·, cs)
  else if ended then none
  else do
    let (_, cs) ← Chars.given ':' cs
    let (_, cs) ← Chars.given ':' cs
    let (tail, _, cs) := readGroups (7 - head.length) true cs
    let ip ← ofGroups? (head ++ List.replicate (8 - head.length - tail.length) 0 ++ tail)
    some (ip, cs)

end IPv6

/-- Where a server listens. -/
inductive SocketAddress
  | v4 (ip : IPv4) (port : UInt16)
  -- a port at a long address, in the scope with this number
  | v6 (ip : IPv6) (scope : UInt32) (port : UInt16)
deriving Repr, DecidableEq

namespace SocketAddress

/-- The port. -/
def port : SocketAddress → UInt16
  | v4 _ port => port
  | v6 _ _ port => port

/-- The same address with another port. -/
def withPort (port : UInt16) : SocketAddress → SocketAddress
  | v4 ip _ => v4 ip port
  | v6 ip scope _ => v6 ip scope port

/-- The scope of an address, unless it is the default. -/
def scopeChars (scope : UInt32) : List Char :=
  if scope = 0 then [] else '%' :: Nat.toDigits 10 scope.toNat

/-- The characters of a socket address. -/
def chars : SocketAddress → List Char
  | v4 ip port => ip.chars ++ ':' :: Nat.toDigits 10 port.toNat
  | v6 ip scope port =>
    '[' :: (ip.chars ++ scopeChars scope ++ ']' :: ':' :: Nat.toDigits 10 port.toNat)

/-- The text of a socket address. -/
def text (a : SocketAddress) : String :=
  String.ofList a.chars

/-- Reads a port. -/
def readPort : Chars.Reader UInt16 := fun cs => do
  let (_, cs) ← Chars.given ':' cs
  let (n, cs) ← Chars.number 10 cs.length true 0xFFFF cs
  some (n.toUInt16, cs)

/-- Reads a scope. -/
def readScope : Chars.Reader UInt32 := fun cs => do
  let (_, cs) ← Chars.given '%' cs
  let (n, cs) ← Chars.number 10 cs.length true 0xFFFFFFFF cs
  some (n.toUInt32, cs)

/-- Reads a port at a short address. -/
def readV4 : Chars.Reader SocketAddress := fun cs => do
  let (ip, cs) ← IPv4.read cs
  let (port, cs) ← readPort cs
  some (v4 ip port, cs)

/-- Reads a port at a long address. -/
def readV6 : Chars.Reader SocketAddress := fun cs => do
  let (_, cs) ← Chars.given '[' cs
  let (ip, cs) ← IPv6.read cs
  let (scope, cs) := (readScope cs).getD (0, cs)
  let (_, cs) ← Chars.given ']' cs
  let (port, cs) ← readPort cs
  some (v6 ip scope port, cs)

/-- The socket address that characters stand for. -/
def ofChars? (cs : List Char) : Option SocketAddress :=
  match (readV4 cs).or (readV6 cs) with
  | some (a, []) => some a
  | _ => none

/-- The socket address that a text stands for. -/
def parse? (s : String) : Option SocketAddress :=
  ofChars? s.toList

end SocketAddress
end ClusterControl
