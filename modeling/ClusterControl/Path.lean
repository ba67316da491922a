import ClusterControl.Text.Utf8
/-!
# File paths

A path is a list of bytes.  Its text, wherever it is shown or sent, is the lenient reading of the
bytes.
-/

namespace ClusterControl

/-- A file path. -/
structure Path where
  bytes : List UInt8 := []
deriving Repr, DecidableEq, Inhabited

namespace Path

/-- The separator of the parts of a path. -/
def separator : UInt8 := 47

/-- The path written by a text. -/
def ofText (s : String) : Path :=
  ⟨Utf8.encode s⟩

/-- No bytes at all. -/
def isEmpty (p : Path) : Bool :=
  p.bytes.isEmpty

/-- The text of a path, with replacements for bytes that are none. -/
def text (p : Path) : String :=
  Utf8.decodeLossy p.bytes

/-- The path of an entry `part` of the directory `p`.  A separator is put in between unless `p` is
empty or ends with one; a `part` that begins with a separator stands for itself. -/
def join (p : Path) (part : String) : Path :=
  let entry := Utf8.encode part
  if entry.head? = some separator then ⟨entry⟩
  else if p.isEmpty || p.bytes.getLast? = some separator then ⟨p.bytes ++ entry⟩
  else ⟨p.bytes ++ separator :: entry⟩

end Path
end ClusterControl
