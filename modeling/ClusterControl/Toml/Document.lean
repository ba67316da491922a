import ClusterControl.Toml.Scalar
/-!
# Configuration files

Reading a file into the table it stands for.  A table may be spelled out under a header, be named on
the way to another header, grow from keys with points, or stand within a line; which of these may
still be added to depends on how it came to be.
-/

namespace ClusterControl

/-- How a table came to be. -/
inductive TableOrigin
  | header
  -- it was named on the way to another header
  | path
  -- it was named on the way to a key with points
  | dotted
  | inlined
deriving Repr, DecidableEq

/-- A value of a configuration file. -/
inductive Toml
  | text (s : String)
  | int (i : Int)
  | real
  | bool (b : Bool)
  | moment
  | list (items : List Toml)
  -- a table, with its entries in the order they were added
  | table (origin : TableOrigin) (entries : List (String × Toml))
  | tables (items : List (List (String × Toml)))
deriving Repr

namespace Toml

/-- The entries of a table, in the order they were added. -/
abbrev Entries := List (String × Toml)

/-- Puts a value in the place of another one. -/
def replaceEntry (key : String) (value : Toml) (entries : Entries) : Entries :=
  entries.map fun e => if e.1 = key then (key, value) else e

/-- Changes the table at the end of a path, and adds the tables on the way to it that are missing.
The path of a key may not lead through a table that has a header, and no path leads through a value
or a table within a line. -/
def modifyAt {α : Type} (dotted : Bool) (f : TableOrigin → Entries → Option (α × Entries)) :
    List String → TableOrigin → Entries → Option (α × Entries)
  | [], origin, entries => f origin entries
  | key :: path, _, entries =>
    match entries.lookup key with
    | none => do
      let origin := if dotted then TableOrigin.dotted else .path
      let (found, inner) ← modifyAt dotted f path origin []
      some (found, entries ++ [(key, .table origin inner)])
    | some (.table origin inner) =>
      if origin = .inlined || (dotted && origin = .header) then none
      else do
        let (found, inner) ← modifyAt dotted f path origin inner
        some (found, replaceEntry key (.table origin inner) entries)
    | some (.tables items) => do
      let (found, inner) ← modifyAt dotted f path .header (← items.getLast?)
      some (found, replaceEntry key (.tables (items.dropLast ++ [inner])) entries)
    | some _ => none

/-- Changes the table at the end of a path and keeps nothing else. -/
def changeAt (dotted : Bool) (path : List String) (f : TableOrigin → Entries → Option Entries)
    (entries : Entries) : Option Entries :=
  (modifyAt dotted (fun origin inner => (f origin inner).map ((), ·)) path .header entries).map
    Prod.snd

/-- Adds a key that is not there yet. -/
def addNew (key : String) (value : Toml) (entries : Entries) : Option Entries :=
  if (entries.lookup key).isSome then none else some (entries ++ [(key, value)])

/-- Adds a key to a table.  A key with points ends in a table that only such keys made. -/
def addKey (path : List String) (key : String) (value : Toml) (entries : Entries) :
    Option Entries :=
  changeAt true path (fun origin inner =>
    if !path.isEmpty && origin ≠ .dotted then none else addNew key value inner) entries

/-- The table that keys and values within a line make. -/
def inlineTable (pairs : List (List String × Toml)) : Option Toml := do
  let entries ← pairs.foldlM (fun entries p => do
    addKey p.1.dropLast (← p.1.getLast?) p.2 entries) []
  some (.table .inlined entries)

mutual

/-- Reads a value that lies inside `depth` others. -/
def readValue : Nat → Nat → Reader Toml
  | 0, _, _ => none
  | fuel + 1, depth, cs =>
    match cs with
    | '"' :: _ => (readText cs).map fun (s, rest) => (.text s, rest)
    | '\x27' :: _ => (readText cs).map fun (s, rest) => (.text s, rest)
    | '[' :: rest =>
      if maxDepth ≤ depth then none
      else (readItems fuel (depth + 1) rest).map fun (xs, rest) => (.list xs, rest)
    | '\x7b' :: rest =>
      if maxDepth ≤ depth then none
      else do
        let (pairs, rest) ← match skipSpace rest with
          | '\x7d' :: rest => some ([], rest)
          | rest => readPairs fuel (depth + 1) rest
        some (← inlineTable pairs, rest)
    | 't' :: 'r' :: 'u' :: 'e' :: rest => some (.bool true, rest)
    | 'f' :: 'a' :: 'l' :: 's' :: 'e' :: rest => some (.bool false, rest)
    | cs =>
      match readMoment cs with
      | some (_, rest) => some (.moment, rest)
      | none =>
        match readReal cs with
        | some (_, rest) => some (.real, rest)
        | none => (readInteger cs).map fun (i, rest) => (.int i, rest)

/-- Reads the items of a sequence after its opening bracket. -/
def readItems : Nat → Nat → Reader (List Toml)
  | 0, _, _ => none
  | fuel + 1, depth, cs =>
    match skipLines cs.length cs with
    | ']' :: rest => some ([], rest)
    | cs => do
      let (x, rest) ← readValue fuel depth cs
      match skipLines rest.length rest with
      | ']' :: rest => some ([x], rest)
      | ',' :: rest => do
        let (xs, rest) ← readItems fuel depth rest
        some (x :: xs, rest)
      | _ => none

/-- Reads the keys and values of a table within a line after its opening brace. -/
def readPairs : Nat → Nat → Reader (List (List String × Toml))
  | 0, _, _ => none
  | fuel + 1, depth, cs => do
    let (key, rest) ← readKey cs
    let (_, rest) ← readChar '=' rest
    let (value, rest) ← readValue fuel depth (skipSpace rest)
    match skipSpace rest with
    | '\x7d' :: rest => some ([(key, value)], rest)
    | ',' :: rest => do
      let (pairs, rest) ← readPairs fuel depth rest
      some ((key, value) :: pairs, rest)
    | _ => none

end

/-! ## Whole files -/

/-- A file as far as it was read. -/
structure Draft where
  root : Entries := []
  -- the path of the table that keys are added to
  path : List String := []
  -- that table is one of several of its name
  repeated : Bool := false
  current : Entries := []

namespace Draft

/-- Puts the table that keys were added to into its place. -/
def settle (d : Draft) : Option Entries :=
  match d.path.getLast? with
  | none => some d.current
  | some key =>
    changeAt false d.path.dropLast (fun _ entries =>
      match d.repeated, entries.lookup key with
      | true, some (.tables items) =>
        some (replaceEntry key (.tables (items ++ [d.current])) entries)
      | true, none => some (entries ++ [(key, .tables [d.current])])
      | false, none => some (entries ++ [(key, .table .header d.current)])
      | _, some _ => none) d.root

/-- Opens the table with a header.  One that was named on the way to another header is opened with
what it holds; any other may not be there yet. -/
def openTable (path : List String) (d : Draft) : Option Draft := do
  let key ← path.getLast?
  let (held, root) ← modifyAt false (fun _ entries =>
    match entries.lookup key with
    | none => some ([], entries)
    | some (.table .path inner) => some (inner, entries.filter fun e => e.1 ≠ key)
    | some _ => none) path.dropLast .header (← d.settle)
  some { root := root, path := path, repeated := false, current := held }

/-- Opens one more of the tables with a header. -/
def openItem (path : List String) (d : Draft) : Option Draft := do
  let key ← path.getLast?
  let root ← changeAt false path.dropLast (fun _ entries =>
    match entries.lookup key with
    | none => some (entries ++ [(key, .tables [])])
    | some (.tables _) => some entries
    | some _ => none) (← d.settle)
  some { root := root, path := path, repeated := true, current := [] }

/-- Adds a key to the table that is open. -/
def add (key : List String) (value : Toml) (d : Draft) : Option Draft := do
  let current ← addKey key.dropLast (← key.getLast?) value d.current
  some { d with current := current }

end Draft

/-- Reads the end of a line that may hold a comment. -/
def readLineEnd (cs : List Char) : Option (List Char) :=
  match skipComment (skipSpace cs) with
  | [] => some []
  | cs => (readNewline cs).map Prod.snd

/-- Reads one line with a header or a key. -/
def readLine (d : Draft) (cs : List Char) : Option (Draft × List Char) :=
  match cs with
  | '[' :: '[' :: rest => do
    let (key, rest) ← readKey rest
    let (_, rest) ← readChar ']' rest
    let (_, rest) ← readChar ']' rest
    some (← d.openItem key, ← readLineEnd rest)
  | '[' :: rest => do
    let (key, rest) ← readKey rest
    let (_, rest) ← readChar ']' rest
    some (← d.openTable key, ← readLineEnd rest)
  | cs => do
    let (key, rest) ← readKey cs
    let (_, rest) ← readChar '=' rest
    let (value, rest) ← readValue (rest.length + 1) 0 (skipSpace rest)
    some (← d.add key value, ← readLineEnd rest)

/-- Reads at most `fuel` lines with a header or a key. -/
def readLines : Nat → Draft → List Char → Option Draft
  | 0, _, _ => none
  | fuel + 1, d, cs =>
    match skipLines cs.length cs with
    | [] => some d
    | cs => do
      let (d, rest) ← readLine d cs
      readLines fuel d rest

/-- The table that a file stands for. -/
def ofChars? (cs : List Char) : Option Entries := do
  let cs := match cs with
    | '\uFEFF' :: rest => rest
    | cs => cs
  let d ← readLines (cs.length + 1) {} cs
  d.settle

/-- The table that a file stands for. -/
def parse? (s : String) : Option Entries :=
  ofChars? s.toList

end Toml
end ClusterControl
