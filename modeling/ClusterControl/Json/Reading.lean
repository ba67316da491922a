import ClusterControl.Json.Document
import ClusterControl.Text.Quoted
/-!
# Typed readers

A reader takes a JSON value of the shape it wants or says what is wrong with it.  The value is
either still a document, so that trouble with the text and trouble with the shape come in the order
of the text, or a value that was set aside until its shape was known.

The two differ where a reader stops early: what follows in a document is text that may not be
there, and what follows in a value is a sequence of the wrong length.
-/

namespace ClusterControl

/-- What a reader found in place of the shape that it wanted. -/
inductive Seen
  | null
  | bool (b : Bool)
  | integer (i : Int)
  | real (bits : UInt64)
  | text (s : String)
  | sequence
  | map
deriving Repr, DecidableEq

/-- How a message names what was found. -/
def Seen.message : Seen → String
  | null => "null"
  | bool b => "boolean `" ++ toString b ++ "`"
  | integer i => "integer `" ++ toString i ++ "`"
  | real bits => "floating point `" ++ Json.floatStyle.render bits ++ "`"
  | text s => "string " ++ quoted s
  | sequence => "sequence"
  | map => "map"

/-- A JSON value of the wrong shape. -/
inductive ShapeError
  | wrongType (seen : Seen) (expected : String)
  -- a value of the right kind that is not allowed
  | wrongValue (seen : Seen) (expected : String)
  | wrongLength (length : Nat) (expected : String)
  | unknownVariant (given : String) (known : List String)
  | missingField (name : String)
  | duplicateField (name : String)
deriving Repr, DecidableEq

/-- A name in a message. -/
def ticked (s : String) : String :=
  "`" ++ s ++ "`"

/-- The names that would have been allowed. -/
def knownNames : List String → String
  | [] => "there are no variants"
  | [a] => "expected " ++ ticked a
  | [a, b] => "expected " ++ ticked a ++ " or " ++ ticked b
  | names => "expected one of " ++ String.intercalate ", " (names.map ticked)

/-- The text of a shape error. -/
def ShapeError.message : ShapeError → String
  | wrongType seen expected => "invalid type: " ++ seen.message ++ ", expected " ++ expected
  | wrongValue seen expected => "invalid value: " ++ seen.message ++ ", expected " ++ expected
  | wrongLength n expected => "invalid length " ++ toString n ++ ", expected " ++ expected
  | unknownVariant given known => "unknown variant " ++ ticked given ++ ", " ++ knownNames known
  | missingField name => "missing field " ++ ticked name
  | duplicateField name => "duplicate field " ++ ticked name

/-- Why a text was not read. -/
inductive JsonError
  | fault (f : Fault)
  | shape (e : ShapeError)
deriving Repr, DecidableEq

/-- The text of a failed reading.  Where a text stops being JSON is not said. -/
def JsonError.message : JsonError → String
  | fault .malformed => "<syntax>"
  | fault .truncated => "<eof>"
  | shape e => e.message

/-- What a reader gives. -/
abbrev Reading (α : Type) := Except JsonError α

/-- What a reader reads from: a document inside `depth` sequences and objects, or a value. -/
inductive Source
  | document (d : Doc) (depth : Nat)
  | value (j : Json)

/-- How many sequences and objects may lie within one another. -/
def maxDepth : Nat := 127

/-- A complaint about the text. -/
def Fault.raise {α : Type} (f : Fault) : Reading α :=
  .error (.fault f)

/-- A complaint about the shape. -/
def ShapeError.raise {α : Type} (e : ShapeError) : Reading α :=
  .error (.shape e)

/-- Complains about a sequence or object that lies too deep. -/
def checkDepth (depth : Nat) : Reading Unit :=
  if depth < maxDepth then .ok () else Fault.malformed.raise

/-- Complains about the end of a sequence or an object. -/
def checkClose : Option Fault → Reading Unit
  | none => .ok ()
  | some f => f.raise

/-- A key of an object. -/
def readKey : Option String → Reading String
  | some key => .ok key
  | none => Fault.malformed.raise

namespace Doc

mutual

/-- Skips a document. -/
def skip : Doc → Reading Unit
  | items xs close => do
    skipItems xs
    checkClose close
  | members ms close => do
    skipMembers ms
    checkClose close
  | fault _ skip => skip.raise
  | null => .ok ()
  | bool _ => .ok ()
  | number _ => .ok ()
  | text _ => .ok ()

/-- Skips the items of a sequence. -/
def skipItems : List Doc → Reading Unit
  | [] => .ok ()
  | x :: xs => do
    skip x
    skipItems xs

/-- Skips the members of an object. -/
def skipMembers : List (Option String × Doc) → Reading Unit
  | [] => .ok ()
  | (_, d) :: ms => do
    skip d
    skipMembers ms

end

mutual

/-- The value of a document inside `depth` sequences and objects. -/
def toJson (depth : Nat) : Doc → Reading Json
  | null => .ok .null
  | bool b => .ok (.bool b)
  | number (some n) => .ok n
  | number none => Fault.malformed.raise
  | text (some s) => .ok (.str s)
  | text none => Fault.malformed.raise
  | items xs close => do
    checkDepth depth
    let values ← itemsToJson (depth + 1) xs
    checkClose close
    .ok (.arr values)
  | members ms close => do
    checkDepth depth
    let values ← membersToJson (depth + 1) ms
    checkClose close
    .ok (.obj values)
  | fault read _ => read.raise

/-- The values of the items of a sequence. -/
def itemsToJson (depth : Nat) : List Doc → Reading (List Json)
  | [] => .ok []
  | x :: xs => do
    let v ← toJson depth x
    let vs ← itemsToJson depth xs
    .ok (v :: vs)

/-- The keys and values of the members of an object. -/
def membersToJson (depth : Nat) : List (Option String × Doc) → Reading (List (String × Json))
  | [] => .ok []
  | (k, d) :: ms => do
    let key ← readKey k
    let v ← toJson depth d
    let vs ← membersToJson depth ms
    .ok ((key, v) :: vs)

end

end Doc

/-- What a value is. -/
def Json.seen : Json → Seen
  | null => .null
  | bool b => .bool b
  | num i => .integer i
  | real bits => .real bits
  | str s => .text s
  | arr _ => .sequence
  | obj _ => .map

namespace Source

/-- What stands there, if the text gets that far. -/
def seen : Source → Reading Seen
  | value j => .ok j.seen
  | document .null _ => .ok .null
  | document (.bool b) _ => .ok (.bool b)
  | document (.number (some n)) _ => .ok n.seen
  | document (.number none) _ => Fault.malformed.raise
  | document (.text (some s)) _ => .ok (.text s)
  | document (.text none) _ => Fault.malformed.raise
  | document (.items _ _) _ => .ok .sequence
  | document (.members _ _) _ => .ok .map
  | document (.fault read _) _ => read.raise

/-- Complains that something of another kind stands there. -/
def wrongType {α : Type} (s : Source) (expected : String) : Reading α := do
  let found ← s.seen
  (ShapeError.wrongType found expected).raise

/-- The value that stands there, whatever its shape. -/
def toJson : Source → Reading Json
  | value j => .ok j
  | document d depth => d.toJson depth

/-- A text. -/
def text (s : Source) : Reading String := do
  match ← s.seen with
  | .text t => .ok t
  | found => (ShapeError.wrongType found "a string").raise

/-- A truth value. -/
def bool (s : Source) : Reading Bool := do
  match ← s.seen with
  | .bool b => .ok b
  | found => (ShapeError.wrongType found "a boolean").raise

/-- An integer from `0` to `max`, of a type with this name. -/
def unsigned (max : Nat) (name : String) (s : Source) : Reading Nat := do
  match ← s.seen with
  | .integer i =>
    if 0 ≤ i ∧ i ≤ (max : Int) then .ok i.toNat
    else (ShapeError.wrongValue (.integer i) name).raise
  | found => (ShapeError.wrongType found name).raise

/-- Nothing at all, written `null`. -/
def unit (expected : String) (s : Source) : Reading Unit := do
  match ← s.seen with
  | .null => .ok ()
  | found => (ShapeError.wrongType found expected).raise

/-- A value that may be `null`. -/
def option {α : Type} (read : Source → Reading α) (s : Source) : Reading (Option α) := do
  match ← s.seen with
  | .null => .ok none
  | _ => (read s).map some

/-- A sequence of values. -/
def list {α : Type} (read : Source → Reading α) (s : Source) : Reading (List α) :=
  match s with
  | document (.items xs close) depth => do
    checkDepth depth
    let values ← xs.mapM fun x => read (document x (depth + 1))
    checkClose close
    .ok values
  | value (.arr xs) => xs.mapM fun x => read (value x)
  | other => other.wrongType "a sequence"

/-- An object with a value per key.  A later value for a key stands in for the earlier one. -/
def table {α : Type} (read : Source → Reading α) (s : Source) : Reading (List (String × α)) :=
  match s with
  | document (.members ms close) depth => do
    checkDepth depth
    let values ← ms.mapM fun m => do
      let key ← readKey m.1
      let v ← read (document m.2 (depth + 1))
      .ok (key, v)
    checkClose close
    .ok values
  | value (.obj ms) => ms.mapM fun m => do
    let v ← read (value m.2)
    .ok (m.1, v)
  | other => other.wrongType "a map"

end Source

/-- A field of an object that is read into a partial record. -/
structure FieldReader (ρ : Type) where
  name : String
  optional : Bool
  isSet : ρ → Bool
  read : ρ → Source → Reading ρ

/-- A number of elements in a message. -/
def elements (n : Nat) : String :=
  toString n ++ (if n = 1 then " element" else " elements")

/-- One member of an object that is read into a record; a key that is no field is skipped. -/
def readMember {ρ : Type} (fields : List (FieldReader ρ)) (r : ρ) (key : String) (s : Source) :
    Reading ρ :=
  match fields.find? fun f => f.name = key with
  | some f => if f.isSet r then (ShapeError.duplicateField f.name).raise else f.read r s
  | none =>
    match s with
    | .document d _ => do
      d.skip
      .ok r
    | .value _ => .ok r

/-- The items of a sequence that stand for the fields from the `i`-th on, and what is left over. -/
def readItems {ρ : Type} (what : String) (total : Nat) :
    List (FieldReader ρ) → Nat → ρ → List Source → Reading Unit → Reading (ρ × List Source)
  | [], _, r, rest, _ => .ok (r, rest)
  | f :: fs, i, r, [], ended => do
    ended
    if f.optional then readItems what total fs (i + 1) r [] ended
    else (ShapeError.wrongLength i (what ++ " with " ++ elements total)).raise
  | f :: fs, i, r, x :: xs, ended => do
    let r ← f.read r x
    readItems what total fs (i + 1) r xs ended

/-- A record, written as an object with a member per field or as a sequence in field order. -/
def Source.record {ρ : Type} (what : String) (fields : List (FieldReader ρ)) (empty : ρ)
    (s : Source) : Reading ρ :=
  match s with
  | .document (.members ms close) depth => do
    checkDepth depth
    let r ← ms.foldlM (fun r m => do
      let key ← readKey m.1
      readMember fields r key (.document m.2 (depth + 1))) empty
    checkClose close
    .ok r
  | .document (.items xs close) depth => do
    checkDepth depth
    let (r, rest) ← readItems what fields.length fields 0 empty
      (xs.map fun x => .document x (depth + 1)) (checkClose close)
    if rest.isEmpty then checkClose close else Fault.malformed.raise
    .ok r
  | .value (.obj ms) => ms.foldlM (fun r m => readMember fields r m.1 (.value m.2)) empty
  | .value (.arr xs) => do
    let (r, rest) ← readItems what fields.length fields 0 empty (xs.map .value) (.ok ())
    if rest.isEmpty then .ok r
    else (ShapeError.wrongLength xs.length
      (elements (xs.length - rest.length) ++ " in sequence")).raise
  | other => other.wrongType what

/-- A field that a record must have. -/
def required {α : Type} (name : String) : Option α → Reading α
  | some v => .ok v
  | none => (ShapeError.missingField name).raise

/-- One of a list of names. -/
def readVariant {α : Type} (known : List (String × α)) (name : String) : Reading α :=
  match known.lookup name with
  | some v => .ok v
  | none => (ShapeError.unknownVariant name (known.map Prod.fst)).raise

/-- A name that stands for one of the values listed: a text, or an object that gives the name as its
only key with the value `null`. -/
def Source.variant {α : Type} (known : List (String × α)) (s : Source) : Reading α :=
  match s with
  | .document (.text (some name)) _ => readVariant known name
  | .document (.members ((k, v) :: ms) close) depth => do
    checkDepth depth
    let name ← readKey k
    let found ← readVariant known name
    Source.unit "unit" (.document v (depth + 1))
    if ms.isEmpty then checkClose close else Fault.malformed.raise
    .ok found
  | .document (.members [] (some f)) _ => f.raise
  | .document (.fault read _) _ => read.raise
  | .document _ _ => Fault.malformed.raise
  | .value (.str name) => readVariant known name
  | .value (.obj [(name, v)]) => do
    let found ← readVariant known name
    match v with
    | .obj [] => .ok found
    | v => do
      Source.unit "unit" (.value v)
      .ok found
  | .value (.obj _) => (ShapeError.wrongValue .map "map with a single key").raise
  | .value j => (ShapeError.wrongType j.seen "string or map").raise

/-- A name that must be given as a text. -/
def Source.tag {α : Type} (known : List (String × α)) (s : Source) : Reading α := do
  match ← s.seen with
  | .text name => readVariant known name
  | found => (ShapeError.wrongType found "variant identifier").raise

/-- Reads a whole text. -/
def readText {α : Type} (read : Source → Reading α) (s : String) : Reading α := do
  let (d, more) := Doc.ofText s
  let v ← read (.document d 0)
  if more then Fault.malformed.raise else .ok v

/-- Reads bytes, which need not be text where they are skipped. -/
def readBytes {α : Type} (read : Source → Reading α) (bytes : List UInt8) : Reading α := do
  let (d, more) := Doc.ofBytes bytes
  let v ← read (.document d 0)
  if more then Fault.malformed.raise else .ok v

/-- Reads a text that begins with a document; what follows does not count. -/
def readHead {α : Type} (read : Source → Reading α) (s : String) : Reading α := do
  let (d, _) := Doc.ofText s
  read (.document d 0)

/-- The JSON value that a text stands for. -/
def Json.parse (s : String) : Reading Json :=
  readText Source.toJson s

end ClusterControl
