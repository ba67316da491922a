/-!
# Bytes and text

A file path or a node's rendered configuration is a list of bytes that need not be text.  This
module writes a text as bytes, reads bytes back as text, and reads any bytes *leniently*: every
ill-formed stretch becomes one replacement character.

An ill-formed stretch is the longest prefix of a well-formed character that the bytes begin with,
or one byte where there is no such prefix.
-/

namespace ClusterControl
namespace Utf8

/-- The bytes of one character. -/
def encodeChar (c : Char) : List UInt8 :=
  let v := c.toNat
  if v < 0x80 then [v.toUInt8]
  else if v < 0x800 then [(0xC0 + v / 64).toUInt8, (0x80 + v % 64).toUInt8]
  else if v < 0x10000 then
    [(0xE0 + v / 4096).toUInt8, (0x80 + v / 64 % 64).toUInt8, (0x80 + v % 64).toUInt8]
  else
    [(0xF0 + v / 262144).toUInt8, (0x80 + v / 4096 % 64).toUInt8, (0x80 + v / 64 % 64).toUInt8,
      (0x80 + v % 64).toUInt8]

/-- The bytes of a list of characters. -/
def encodeChars (cs : List Char) : List UInt8 :=
  cs.flatMap encodeChar

/-- The bytes of a text. -/
def encode (s : String) : List UInt8 :=
  encodeChars s.toList

/-- What a list of bytes begins with. -/
inductive Lead
  | finished
  -- a character, and how many bytes follow its first one
  | scalar (c : Char) (more : Nat)
  -- an ill-formed stretch, and how many bytes follow its first one
  | broken (more : Nat)
deriving Repr, DecidableEq

/-- The last six bits of a byte that continues a character. -/
def continuation? (b : UInt8) : Option Nat :=
  if 0x80 ≤ b ∧ b ≤ 0xBF then some (b.toNat % 64) else none

/-- The range that the second byte must lie in, by the first one. -/
def secondRange (b : UInt8) : UInt8 × UInt8 :=
  if b = 0xE0 then (0xA0, 0xBF)
  else if b = 0xED then (0x80, 0x9F)
  else if b = 0xF0 then (0x90, 0xBF)
  else if b = 0xF4 then (0x80, 0x8F)
  else (0x80, 0xBF)

/-- The number of bytes that a character with this first byte has; `0` for a byte that begins none. -/
def width (b : UInt8) : Nat :=
  if b < 0x80 then 1
  else if b < 0xC2 then 0
  else if b < 0xE0 then 2
  else if b < 0xF0 then 3
  else if b < 0xF5 then 4
  else 0

/-- The second byte, if it may follow the first one. -/
def second? (b : UInt8) : List UInt8 → Option Nat
  | [] => none
  | b₁ :: _ =>
    if (secondRange b).1 ≤ b₁ ∧ b₁ ≤ (secondRange b).2 then some (b₁.toNat % 64) else none

/-- Reads the first character, or measures the ill-formed stretch that stands in its place. -/
def lead : List UInt8 → Lead
  | [] => .finished
  | b :: rest =>
    match width b with
    | 1 => .scalar (Char.ofNat b.toNat) 0
    | 2 =>
      match second? b rest with
      | none => .broken 0
      | some x => .scalar (Char.ofNat (b.toNat % 32 * 64 + x)) 1
    | 3 =>
      match second? b rest with
      | none => .broken 0
      | some x =>
        match rest.tail.head?.bind continuation? with
        | none => .broken 1
        | some y => .scalar (Char.ofNat (b.toNat % 16 * 4096 + x * 64 + y)) 2
    | 4 =>
      match second? b rest with
      | none => .broken 0
      | some x =>
        match rest.tail.head?.bind continuation? with
        | none => .broken 1
        | some y =>
          match rest.tail.tail.head?.bind continuation? with
          | none => .broken 2
          | some z => .scalar (Char.ofNat (b.toNat % 8 * 262144 + x * 4096 + y * 64 + z)) 3
    | _ => .broken 0

/-- The characters of well-formed bytes; `none` for any others. -/
def decodeChars? (bytes : List UInt8) : Option (List Char) :=
  go bytes.length bytes
where
  go : Nat → List UInt8 → Option (List Char)
    | 0, bytes => if bytes.isEmpty then some [] else none
    | fuel + 1, bytes =>
      match lead bytes with
      | .finished => some []
      | .broken _ => none
      | .scalar c more => (go fuel (bytes.drop (more + 1))).map (c :: ·)

/-- The text that well-formed bytes stand for. -/
def decode? (bytes : List UInt8) : Option String :=
  (decodeChars? bytes).map String.ofList

/-- The character that stands for an ill-formed stretch. -/
def replacement : Char := '\uFFFD'

/-- The characters of any bytes, with one replacement per ill-formed stretch. -/
def decodeCharsLossy (bytes : List UInt8) : List Char :=
  go bytes.length bytes
where
  go : Nat → List UInt8 → List Char
    | 0, _ => []
    | fuel + 1, bytes =>
      match lead bytes with
      | .finished => []
      | .broken more => replacement :: go fuel (bytes.drop (more + 1))
      | .scalar c more => c :: go fuel (bytes.drop (more + 1))

/-- The text of any bytes, with one replacement per ill-formed stretch. -/
def decodeLossy (bytes : List UInt8) : String :=
  String.ofList (decodeCharsLossy bytes)

/-- The number of bytes that a list of characters takes. -/
def sizeOf (cs : List Char) : Nat :=
  cs.foldl (fun n c => n + c.utf8Size) 0

end Utf8

/-- Two lower-case hexadecimal digits per byte. -/
def hexOfBytes (bytes : List UInt8) : String :=
  String.ofList (bytes.flatMap fun b => [Nat.digitChar (b.toNat / 16), Nat.digitChar (b.toNat % 16)])

/-- The value of a hexadecimal digit of either case. -/
def hexDigit? (c : Char) : Option Nat :=
  if '0' ≤ c ∧ c ≤ '9' then some (c.toNat - '0'.toNat)
  else if 'a' ≤ c ∧ c ≤ 'f' then some (c.toNat - 'a'.toNat + 10)
  else if 'A' ≤ c ∧ c ≤ 'F' then some (c.toNat - 'A'.toNat + 10)
  else none

/-- The bytes that pairs of hexadecimal digits stand for. -/
def bytesOfHexChars? : List Char → Option (List UInt8)
  | [] => some []
  | [_] => none
  | h :: l :: rest => do
    let high ← hexDigit? h
    let low ← hexDigit? l
    let more ← bytesOfHexChars? rest
    some ((high * 16 + low).toUInt8 :: more)

/-- The bytes that a text of hexadecimal digits stands for. -/
def bytesOfHex? (s : String) : Option (List UInt8) :=
  bytesOfHexChars? s.toList

end ClusterControl
