/-!
# Media types

The kind of a message's body, as its header names it: a type, a subtype, perhaps a suffix of the
subtype, and parameters, of which only the form is looked at.
-/

namespace ClusterControl

/-- The kind of a body, in small letters. -/
structure MediaType where
  kind : String
  subtype : String
  -- the part of the subtype after its last plus sign
  suffix : Option String
deriving Repr, DecidableEq

namespace MediaType

/-- A character that a name can have. -/
def isToken (c : Char) : Bool :=
  c.isAlphanum || "!#$%&'+-.^_`|~".contains c

/-- A character that a quoted value can have. -/
def isQuotable (c : Char) : Bool :=
  c = '\t' || (0x20 ≤ c.toNat && c.toNat ≠ 0x7f)

/-- The parameters that follow are well formed: names with values, which may be quoted. -/
def areParameters : Nat → List Char → Bool
  | 0, _ => false
  | _ + 1, [] => true
  | fuel + 1, ' ' :: rest => areParameters fuel rest
  | fuel + 1, cs =>
    let name := cs.takeWhile isToken
    match cs.dropWhile isToken with
    | '=' :: '"' :: rest =>
      let value := rest.takeWhile fun c => c ≠ '"'
      !name.isEmpty && !value.isEmpty && value.all isQuotable &&
        match (rest.dropWhile fun c => c ≠ '"').drop 1 |>.dropWhile (· = ' ') with
        | [] => rest.contains '"'
        | ';' :: more => areParameters fuel more
        | _ => false
    | '=' :: rest =>
      let value := rest.takeWhile isToken
      !name.isEmpty &&
        match rest.dropWhile isToken with
        | [] => true
        | ';' :: more => !value.isEmpty && areParameters fuel more
        | _ => false
    | _ => false

/-- The subtype and its suffix.  A plus sign at the very beginning belongs to the subtype. -/
def splitSuffix (cs : List Char) : List Char × Option (List Char) :=
  let back := cs.reverse
  let tail := back.takeWhile (· ≠ '+')
  match back.dropWhile (· ≠ '+') with
  | '+' :: head@(_ :: _) => (head.reverse, some tail.reverse)
  | _ => (cs, none)

/-- The kind that a header names. -/
def parse? (header : String) : Option MediaType :=
  let cs := header.toList
  let kind := cs.takeWhile isToken
  match cs.dropWhile isToken with
  | '/' :: rest =>
    let sub := rest.takeWhile isToken
    let wellFormed := match rest.dropWhile isToken with
      | [] => true
      | ';' :: more => !sub.isEmpty && areParameters (more.length + 1) more
      | _ => false
    if kind.isEmpty || !wellFormed then none
    else
      let (subtype, suffix) := splitSuffix sub
      let small (cs : List Char) := String.ofList (cs.map Char.toLower)
      some ⟨small kind, small subtype, suffix.map small⟩
  | _ => none

/-- The body is JSON. -/
def isJson (t : MediaType) : Bool :=
  t.kind = "application" && (t.subtype = "json" || t.suffix = some "json")

end MediaType
end ClusterControl
