import ClusterControl.CommandLine.Terminal
import ClusterControl.Text.Utf8
/-!
# The output of nodes

What a node writes is shown line by line, with the node's name in front in a colour of its own.  A
line ends with a line feed, which a carriage return may precede; the last line may lack its end.
The reader stops at a line that is no text, and leaves the rest unread.
-/

namespace ClusterControl
namespace Echo

/-- The byte that ends a line. -/
def lineFeed : UInt8 := 10

/-- The byte that may precede the end of a line. -/
def carriageReturn : UInt8 := 13

/-- A line of a stream: its bytes without their end, and whether it has one. -/
structure RawLine where
  bytes : List UInt8
  ended : Bool
deriving Repr, DecidableEq

/-- The bytes of a line without a carriage return at their end, if the line has an end. -/
def RawLine.content (l : RawLine) : List UInt8 :=
  if l.ended && l.bytes.getLast? = some carriageReturn then l.bytes.dropLast else l.bytes

/-- The text of a line, if it is one. -/
def RawLine.text? (l : RawLine) : Option String :=
  Utf8.decode? l.content

/-- The lines of a stream of which a line has begun with these bytes, the newest of them first. -/
def rawLinesFrom (pending : List UInt8) : List UInt8 → List RawLine
  | [] => if pending.isEmpty then [] else [⟨pending.reverse, false⟩]
  | b :: rest =>
    if b = lineFeed then ⟨pending.reverse, true⟩ :: rawLinesFrom [] rest
    else rawLinesFrom (b :: pending) rest

/-- The lines of a stream. -/
def rawLines (bytes : List UInt8) : List RawLine :=
  rawLinesFrom [] bytes

/-- The texts of the lines up to the first one that is no text. -/
def texts : List RawLine → List String
  | [] => []
  | l :: rest =>
    match l.text? with
    | some text => text :: texts rest
    | none => []

/-- The colours of the names. -/
def colours : List Nat := [32, 33, 34, 35, 36]

/-- What stands in front of each line of a node; `n` counts the nodes that were started before. -/
def label (name : String) (n : Nat) : String :=
  Style.coloured (colours.getD (n % colours.length) 32) ("[" ++ name ++ "]")

/-- A line as it is printed. -/
def labelled (label text : String) : String :=
  label ++ " " ++ text

/-- What is printed of a stream. -/
def lines (label : String) (bytes : List UInt8) : List String :=
  (texts (rawLines bytes)).map (labelled label)

/-- The reader goes on after it has read these bytes. -/
def goesOn (bytes : List UInt8) : Bool :=
  (rawLines bytes).all fun l => !l.ended || l.text?.isSome

/-! ## The reader -/

/-- A reader of a stream, which takes in byte after byte. -/
structure Reader where
  -- the bytes of the line that has begun, the newest of them first
  pending : List UInt8 := []
  printed : List String := []
  -- it has returned, and reads no more
  returned : Bool := false
deriving Repr, DecidableEq

namespace Reader

/-- A line is there: it is printed, or the reader returns. -/
def take (label : String) (r : Reader) (l : RawLine) : Reader :=
  match l.text? with
  | some text => { r with pending := [], printed := r.printed ++ [labelled label text] }
  | none => { r with pending := [], returned := true }

/-- Takes in a byte. -/
def takeByte (label : String) (r : Reader) (b : UInt8) : Reader :=
  if r.returned then r
  else if b = lineFeed then r.take label ⟨r.pending.reverse, true⟩
  else { r with pending := b :: r.pending }

/-- Takes in the bytes of a stream as far as they have come, in pieces. -/
def read (label : String) (r : Reader) (pieces : List (List UInt8)) : Reader :=
  pieces.foldl (fun r bytes => bytes.foldl (takeByte label) r) r

/-- The stream is at its end. -/
def finish (label : String) (r : Reader) : Reader :=
  if r.returned then r
  else
    let r := if r.pending.isEmpty then r else r.take label ⟨r.pending.reverse, false⟩
    { r with returned := true }

end Reader

end Echo
end ClusterControl
