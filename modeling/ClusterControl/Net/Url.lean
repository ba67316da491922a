import ClusterControl.Net.Address
import ClusterControl.Text.Blank
/-!
# URLs

Reading the address of a server: its scheme, its host and its port, and what is wrong with one that
cannot be read.  Schemes of the web need a host, take a backslash for a slash, and leave out the
port that is theirs by default.
-/

namespace ClusterControl

/-- What is wrong with a URL. -/
inductive UrlFault
  | emptyHost
  | domainName
  | port
  -- the host ends like a short address and is none
  | ipv4
  -- the host begins like a long address and is none
  | ipv6
  -- a host outside the web's schemes has a character that may not stand there
  | domainCharacter
  | relative
deriving Repr, DecidableEq

/-- The text of a fault. -/
def UrlFault.message : UrlFault → String
  | emptyHost => "empty host"
  | domainName => "invalid international domain name"
  | port => "invalid port number"
  | ipv4 => "invalid IPv4 address"
  | ipv6 => "invalid IPv6 address"
  | domainCharacter => "invalid domain character"
  | relative => "relative URL without a base"

/-- Who serves a URL. -/
inductive UrlHost
  | nobody
  | domain (name : String)
  | v4 (ip : IPv4)
  | v6 (ip : IPv6)
deriving Repr, DecidableEq

/-- The text of a host. -/
def UrlHost.text : UrlHost → String
  | nobody => ""
  | domain name => name
  | v4 ip => String.ofList ip.chars
  | v6 ip => String.ofList ('[' :: (ip.chars ++ [']']))

/-- A URL that was read. -/
structure Url where
  scheme : String
  -- a host part stands between the scheme and the path
  hierarchical : Bool
  -- the user and the password, each with what ends it
  user : String
  host : UrlHost
  port : Option Nat
  tail : String
deriving Repr, DecidableEq

namespace Url

/-- The text of a URL. -/
def text (u : Url) : String :=
  u.scheme ++ ":" ++ (if u.hierarchical then "//" ++ u.user ++ u.host.text else "") ++
    (match u.port with
      | some n => ":" ++ toString n
      | none => "") ++ u.tail

/-- The port that a scheme has by default. -/
def defaultPort? (scheme : String) : Option Nat :=
  if scheme = "http" || scheme = "ws" then some 80
  else if scheme = "https" || scheme = "wss" then some 443
  else if scheme = "ftp" then some 21
  else none

/-- A scheme whose URLs follow the rules of the web. -/
def isSpecial (scheme : String) : Bool :=
  (defaultPort? scheme).isSome || scheme = "file"

/-! ## Percent encoding -/

/-- A byte in percent encoding. -/
def percent (b : UInt8) : List Char :=
  let digit (n : Nat) : Char := (Nat.digitChar n).toUpper
  ['%', digit (b.toNat / 16), digit (b.toNat % 16)]

/-- Characters in percent encoding as far as they are not plain ASCII or are to be escaped. -/
def encodeWhere (escaped : Char → Bool) (cs : List Char) : List Char :=
  cs.flatMap fun c =>
    if c.toNat < 0x20 || 0x7E < c.toNat || escaped c then (Utf8.encodeChar c).flatMap percent
    else [c]

/-- The bytes of a text in percent encoding. -/
def percentDecode : List Char → List UInt8
  | '%' :: h :: l :: rest =>
    match hexDigit? h, hexDigit? l with
    | some high, some low => (high * 16 + low).toUInt8 :: percentDecode rest
    | _, _ => 37 :: percentDecode (h :: l :: rest)
  | c :: rest => Utf8.encodeChar c ++ percentDecode rest
  | [] => []
termination_by cs => cs.length

/-- Characters that are escaped in a path. -/
def escapedInPath (c : Char) : Bool :=
  [' ', '"', '#', '<', '>', '?', '\x60', '\x7b', '\x7d'].contains c

/-- Characters that are escaped in a query. -/
def escapedInQuery (c : Char) : Bool :=
  [' ', '"', '#', '<', '>', '\x27'].contains c

/-- Characters that are escaped in a fragment. -/
def escapedInFragment (c : Char) : Bool :=
  [' ', '"', '<', '>', '\x60'].contains c

/-- Characters that are escaped in a user or a password. -/
def escapedInUser (c : Char) : Bool :=
  escapedInPath c || ['/', ':', ';', '=', '@', '[', '\\', ']', '^', '|'].contains c

/-! ## Hosts -/

/-- The number that a part of a short address stands for: `none` if it is none, and any number that
is too large for one if it is too large. -/
def partNumber? (cs : List Char) : Option Nat :=
  let (base, digits) : Nat × List Char := match cs with
    | '0' :: 'x' :: rest => (16, rest)
    | '0' :: 'X' :: rest => (16, rest)
    | '0' :: d :: rest => (8, d :: rest)
    | cs => (10, cs)
  if cs.isEmpty then none
  else if digits.all fun c => (Chars.digitIn? base c).isSome then
    some (Chars.numberOf base digits)
  else none

/-- The parts of a name between its points. -/
def labels (cs : List Char) : List (List Char) :=
  cs.splitOn '.'

/-- The parts of a name, without an empty one at its end. -/
def numericParts (cs : List Char) : List (List Char) :=
  let parts := labels cs
  if 1 < parts.length && parts.getLast? = some [] then parts.dropLast else parts

/-- The name's last part is a number, so that the name can only be a short address. -/
def endsInNumber (cs : List Char) : Bool :=
  match (numericParts cs).getLast? with
  | none => false
  | some part => (!part.isEmpty && part.all Char.isDigit) || (partNumber? part).isSome

/-- The short address that a name of up to four numbers stands for; the last number fills the bytes
that are left. -/
def ipv4OfName? (cs : List Char) : Option IPv4 := do
  let numbers ← (numericParts cs).mapM partNumber?
  let last ← numbers.getLast?
  let front := numbers.dropLast
  let room := Nat.pow 256 (4 - front.length)
  if 3 < front.length || front.any (255 < ·) || room ≤ last then none
  else some (IPv4.ofNat (front.foldl (fun n byte => n * 256 + byte) 0 * room + last))

/-- The long address between brackets. -/
def ipv6OfBrackets (cs : List Char) : Except UrlFault UrlHost :=
  match cs.getLast? with
  | some ']' =>
    match IPv6.read cs.tail.dropLast with
    | some (ip, []) => .ok (.v6 ip)
    | _ => .error .ipv6
  | _ => .error .ipv6

/-- A character that may not stand in a domain name. -/
def forbiddenInDomain (c : Char) : Bool :=
  c.toNat ≤ 0x20 || (0x7F ≤ c.toNat && c.toNat < 0xA0) ||
    ['%', '#', '/', ':', '<', '>', '?', '@', '[', '\\', ']', '^', '|'].contains c

/-- The plain form of a character of a domain name: full-width forms and other full stops stand for
their ASCII counterparts, and case does not count. -/
def foldDomainChar (c : Char) : Char :=
  if 0xFF01 ≤ c.toNat && c.toNat ≤ 0xFF5E then (Char.ofNat (c.toNat - 0xFEE0)).toLower
  else if c.toNat = 0x3002 || c.toNat = 0xFF61 then '.'
  else c.toLower

/-- The host that a name or an address in a URL of the web stands for. -/
def readSpecialHost (cs : List Char) : Except UrlFault UrlHost :=
  match cs with
  | [] => .error .emptyHost
  | '[' :: _ => ipv6OfBrackets cs
  | cs =>
    match Utf8.decodeChars? (percentDecode cs) with
    | none => .error .domainName
    | some name =>
      let name := (name.filter fun c => c.toNat ≠ 0xAD).map foldDomainChar
      if name.any forbiddenInDomain then .error .domainName
      else if name.isEmpty then .error .emptyHost
      else if endsInNumber name then
        match ipv4OfName? name with
        | some ip => .ok (.v4 ip)
        | none => .error .ipv4
      else .ok (.domain (String.ofList name))

/-- The host that stands in any other URL. -/
def readOpaqueHost (cs : List Char) : Except UrlFault UrlHost :=
  match cs with
  | [] => .ok .nobody
  | '[' :: _ => ipv6OfBrackets cs
  | cs =>
    if cs.any fun c => ['\x00', '\t', '\n', '\r', ' ', '#', '/', ':', '<', '>', '?', '@', '[',
        '\\', ']', '^', '|'].contains c then .error .domainCharacter
    else .ok (.domain (String.ofList (encodeWhere (fun _ => false) cs)))

/-- The characters of a host and what follows them.  A colon ends it, except between brackets. -/
def splitHost (special : Bool) : Bool → List Char → List Char × List Char
  | _, [] => ([], [])
  | inside, c :: rest =>
    if (c = ':' && !inside) || c = '/' || c = '?' || c = '#' || (special && c = '\\') then
      ([], c :: rest)
    else
      let (host, rest) := splitHost special ((inside || c = '[') && c ≠ ']') rest
      (c :: host, rest)

/-- A character that ends the host part. -/
def endsHostPart (special : Bool) (c : Char) : Bool :=
  c = '/' || c = '?' || c = '#' || (special && c = '\\')

/-- Reads the port after the host's colon. -/
def readPort : Nat → Bool → List Char → Except UrlFault (Option Nat × List Char)
  | n, any, [] => .ok (if any then some n else none, [])
  | n, any, c :: rest =>
    if c.isDigit then
      let n := n * 10 + (c.toNat - '0'.toNat)
      if 0xFFFF < n then .error .port else readPort n true rest
    else if c = '/' || c = '\\' || c = '?' || c = '#' then
      .ok (if any then some n else none, c :: rest)
    else .error .port

/-! ## Paths -/

/-- Steps into the parts of a path, where one point stays and two go back. -/
def resolveDots (parts : List (List Char)) : List (List Char) :=
  let isDot (p : List Char) : Bool := ["." , "%2e"].contains (lowerAscii (String.ofList p))
  let isDots (p : List Char) : Bool :=
    ["..", ".%2e", "%2e.", "%2e%2e"].contains (lowerAscii (String.ofList p))
  let rec go : List (List Char) → List (List Char) → List (List Char)
    | done, [] => done.reverse
    | done, [p] => (if isDot p then [] :: done else if isDots p then [] :: done.tail
        else p :: done).reverse
    | done, p :: rest =>
      if isDot p then go done rest else if isDots p then go done.tail rest else go (p :: done) rest
  go [] parts

/-- The path, query and fragment after the host part. -/
def readTail (special : Bool) (cs : List Char) : String :=
  let path := cs.takeWhile fun c => c ≠ '?' && c ≠ '#'
  let rest := cs.dropWhile fun c => c ≠ '?' && c ≠ '#'
  let query := rest.takeWhile (· ≠ '#')
  let fragment := rest.dropWhile (· ≠ '#')
  let path := if special then path.map fun c => if c = '\\' then '/' else c else path
  let parts := match path with
    | [] => if special then [[]] else []
    | '/' :: more => more.splitOn '/'
    | more => more.splitOn '/'
  let parts := (resolveDots parts).map fun p => '/' :: encodeWhere escapedInPath p
  String.ofList (parts.flatten ++
    (match query with
      | [] => []
      | q :: more => q :: encodeWhere escapedInQuery more) ++
    (match fragment with
      | [] => []
      | f :: more => f :: encodeWhere escapedInFragment more))

/-! ## Whole URLs -/

/-- The user part before the last `@` of the host part, and what follows it. -/
def splitUser (special : Bool) (cs : List Char) : Option (List Char × List Char) :=
  let part := cs.takeWhile fun c => !endsHostPart special c
  let rest := cs.drop part.length
  let afterAt := (part.reverse.takeWhile (· ≠ '@')).reverse
  if part.contains '@' then
    some (part.take (part.length - afterAt.length - 1), afterAt ++ rest)
  else none

/-- The user and the password as they are written. -/
def userText (cs : List Char) : String :=
  let user := cs.takeWhile (· ≠ ':')
  let password := (cs.dropWhile (· ≠ ':')).drop 1
  if cs.isEmpty then ""
  else String.ofList (encodeWhere escapedInUser user ++
    (if password.isEmpty then [] else ':' :: encodeWhere escapedInUser password) ++ ['@'])

/-- Reads what follows the two slashes. -/
def readHostPart (scheme : String) (cs : List Char) : Except UrlFault Url := do
  let special := isSpecial scheme
  let (user, cs) ← match splitUser special cs with
    | none => .ok ("", cs)
    | some ([], rest) =>
      match rest with
      | c :: _ => if endsHostPart special c then .error .emptyHost else .ok ("", rest)
      | [] => .ok ("", rest)
    | some (user, rest) => .ok (userText user, rest)
  let (name, cs) := splitHost special false cs
  let host ← if special then readSpecialHost name else readOpaqueHost name
  if host = .nobody && cs.head? = some ':' then .error .emptyHost
  let (port, cs) ← match cs with
    | ':' :: rest => readPort 0 false rest
    | cs => .ok (none, cs)
  if host = .nobody && user ≠ "" then .error .emptyHost
  let port := if port = defaultPort? scheme then none else port
  .ok ⟨scheme, true, user, host, port, readTail special cs⟩

/-- Reads what follows the scheme of a file. -/
def readFile (cs : List Char) : Except UrlFault Url := do
  let slash (c : Char) : Bool := c = '/' || c = '\\'
  match cs with
  | a :: b :: rest =>
    if slash a && slash b then
      let name := rest.takeWhile fun c => !endsHostPart true c
      let host ← if name.isEmpty then .ok UrlHost.nobody else readSpecialHost name
      let host := if host = .domain "localhost" then UrlHost.nobody else host
      .ok ⟨"file", true, "", host, none, readTail true (rest.drop name.length)⟩
    else .ok ⟨"file", true, "", .nobody, none, readTail true cs⟩
  | cs => .ok ⟨"file", true, "", .nobody, none, readTail true cs⟩

/-- A character that may stand in a scheme. -/
def isSchemeChar (c : Char) : Bool :=
  c.isAlphanum || c = '+' || c = '-' || c = '.'

/-- Reads a URL that stands for itself. -/
def ofChars (cs : List Char) : Except UrlFault Url :=
  let cs := ((cs.dropWhile fun c => c.toNat ≤ 0x20).reverse.dropWhile
    fun c => c.toNat ≤ 0x20).reverse
  let cs := cs.filter fun c => c ≠ '\t' && c ≠ '\n' && c ≠ '\r'
  let scheme := (cs.takeWhile isSchemeChar).map Char.toLower
  match scheme, cs.dropWhile isSchemeChar with
  | s :: _, ':' :: rest =>
    if !s.isAlpha then .error .relative
    else
      let scheme := String.ofList scheme
      if scheme = "file" then readFile rest
      else if isSpecial scheme then
        readHostPart scheme (rest.dropWhile fun c => c = '/' || c = '\\')
      else
        match rest with
        | '/' :: '/' :: rest => readHostPart scheme rest
        | rest => .ok ⟨scheme, false, "", .nobody, none,
            String.ofList (encodeWhere (fun _ => false) rest)⟩
  | _, _ => .error .relative

/-- Reads a URL that stands for itself. -/
def parse (s : String) : Except UrlFault Url :=
  ofChars s.toList

end Url
end ClusterControl
