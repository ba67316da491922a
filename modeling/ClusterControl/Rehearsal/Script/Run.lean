import ClusterControl.Nodes.Echo
import ClusterControl.Nodes.ExitStatus
import ClusterControl.Rehearsal.Script.Arithmetic
import ClusterControl.Rehearsal.Script.Command
import ClusterControl.Rehearsal.Script.Program
/-!
# Runs of scripts

What a process that follows a script writes, when, and how it ends when it is left alone.  A script
that goes on for very long counts as one that never ends.  A process that writes where nobody reads
any more is ended by a signal.  No process leaves an image of its memory behind.
-/

namespace ClusterControl
namespace Script

/-- What a process does when it is asked to end, unless it just ends. -/
structure Farewell where
  out : List UInt8 := []
  err : List UInt8 := []
  ends : Bool := false
deriving Repr, DecidableEq

/-- What a process does when it is left alone. -/
structure Life where
  -- what it writes to its output, each with the time in milliseconds since its start
  out : List (Nat × List UInt8) := []
  err : List (Nat × List UInt8) := []
  ending : Option (Nat × ExitStatus) := none
  -- what it does when it is asked to end, unless it just ends
  farewell : Option Farewell := none
deriving Repr, DecidableEq

/-- What surrounds a process. -/
structure Surroundings where
  called : String
  arguments : List String
  files : List (String × List UInt8) := []
  heard : Bool := false
deriving Repr, DecidableEq

/-- Where a channel of a process leads. -/
inductive Sink
  | out
  | err
  | away
deriving Repr, DecidableEq

/-- Where the channels of a process lead at first. -/
def firstSinks : List (Nat × Sink) := [(1, .out), (2, .err)]

/-- How a command leaves the loop that it is in. -/
inductive Hop
  | over
  | next
deriving Repr, DecidableEq

/-- A process at work on a script. -/
structure Worker where
  -- what it has done so far; the newest writing stands first
  life : Life := {}
  time : Nat := 0
  values : List (String × String) := []
  sinks : List (Nat × Sink) := firstSinks
  input : List UInt8 := []
  code : Nat := 0
  traps : List (Nat × String) := []
  signalled : Option Nat := none
  hop : Option Hop := none
  -- when the processes that it left alone have ended
  others : Option Nat := some 0
  listens : Bool := false
  ended : Option ExitStatus := none
  endless : Bool := false
deriving Repr

namespace Worker

/-- It works on. -/
def isActive (w : Worker) : Bool :=
  w.ended.isNone && !w.endless && w.hop.isNone

/-- It ends with a code. -/
def exit (w : Worker) (code : Nat) : Worker :=
  { w with ended := some (.code (code % 256)) }

/-- The last command has this code. -/
def leaving (w : Worker) (code : Nat) : Worker :=
  { w with code := code }

/-- The number under which a process knows itself. -/
def ownNumber : String := "1"

/-! ## Words -/

/-- The value of a name. -/
def valueOf (s : Surroundings) (w : Worker) (name : String) : String :=
  if name = "#" then toString s.arguments.length
  else if name = "?" then toString w.code
  else if name = "$" then ownNumber
  else if name = "@" || name = "*" then " ".intercalate s.arguments
  else if name = "0" then s.called
  else
    match digits? name.toList with
    | some n => s.arguments.getD (n - 1) ""
    | none => (w.values.lookup name).getD ""

/-- What a word is made of once the values are put in. -/
inductive Atom
  | char (c : Char) (protect : Bool)
  | split
  | present
deriving Repr, DecidableEq

/-- The atoms of a value. -/
def atomsOfValue (protect : Bool) (text : String) : List Atom :=
  if protect then .present :: text.toList.map fun c => .char c true
  else text.toList.map fun c => if c = ' ' || c = '\t' || c = '\n' then .split else .char c true

/-- What words are filled from: the surroundings, and the outputs of scripts. -/
structure Source where
  surroundings : Surroundings
  output : List Char → Worker → String

/-- The atoms of a piece. -/
def atoms (s : Source) (w : Worker) (piece : Piece) : List Atom :=
  let value := valueOf s.surroundings w
  match piece with
  | .text cs protect =>
    (if protect then [.present] else []) ++ cs.map fun c => .char c protect
  | .value name protect => atomsOfValue protect (value name)
  | .trimmed name front longest pattern protect =>
    atomsOfValue protect (String.ofList (trim front longest pattern (value name).toList))
  | .fallback name text protect =>
    atomsOfValue protect (if (value name).isEmpty then String.ofList text else value name)
  | .size name protect => atomsOfValue protect (toString (value name).length)
  | .sum cs protect => atomsOfValue protect (toString (sumOf value cs))
  | .output script protect => atomsOfValue protect (s.output script w)

/-- The characters among atoms. -/
def chars (as : List Atom) : List (Char × Bool) :=
  as.filterMap fun a => match a with
    | .char c protect => some (c, protect)
    | _ => none

/-- The texts that a word stands for. -/
def fields (s : Source) (w : Worker) (word : Word) : List String :=
  let parts := (word.flatMap (atoms s w)).splitOn .split
  (parts.filter fun as => !as.isEmpty).map fun as => String.ofList ((chars as).map Prod.fst)

/-- The characters that a word stands for, without splitting it. -/
def whole (s : Source) (w : Worker) (word : Word) : List (Char × Bool) :=
  chars (word.flatMap (atoms s w))

/-- The name and the value of a word that sets a name. -/
def setting? (s : Source) (w : Worker) (word : Word) : Option (String × String) :=
  let name := (word.takeWhile fun piece => match piece with
    | .text [c] false => isNameChar c
    | _ => false)
  match word.drop name.length with
  | .text ['='] false :: rest =>
    if name.isEmpty then none
    else (plain? name).map fun name => (name, String.ofList ((whole s w rest).map Prod.fst))
  | _ => none

/-- Sets names, one after the other, and gives the words that set none. -/
def setNames (s : Source) : List Word → Worker → List Word × Worker
  | [], w => ([], w)
  | word :: words, w =>
    match setting? s w word with
    | some set => setNames s words { w with values := set :: w.values }
    | none => (word :: words, w)

/-! ## Writing -/

/-- Writes to the output or the error output. -/
def write (s : Surroundings) (sink : Sink) (bytes : List UInt8) (w : Worker) : Worker :=
  let before (chunks : List (Nat × List UInt8)) : List UInt8 :=
    (chunks.reverse.filter fun c => c.1 < w.time).flatMap Prod.snd
  let chunks := match sink with
    | .out => w.life.out
    | .err => w.life.err
    | .away => []
  if bytes.isEmpty || sink = .away then w
  else if s.heard && !Echo.goesOn (before chunks) then { w with signalled := some 13 }
  else
    match sink with
    | .out => { w with life := { w.life with out := (w.time, bytes) :: w.life.out } }
    | .err => { w with life := { w.life with err := (w.time, bytes) :: w.life.err } }
    | .away => w

/-- Where the channels of a program lead that were led elsewhere. -/
def sinksOf (sinks : List (Nat × Sink)) (leads : List (Nat × Lead)) : List (Nat × Sink) :=
  leads.foldl (fun sinks l =>
    let sink := match l.2 with
      | .channel n => (sinks.lookup n).getD .away
      | .file => .away
    (l.1, sink) :: sinks) sinks

/-- The bytes of what was written. -/
def bytesOf (chunks : List (Nat × List UInt8)) : List UInt8 :=
  chunks.reverse.flatMap Prod.snd

/-! ## Programs -/

/-- Compares as the arguments of a test say. -/
def holds : List String → Bool
  | ["!", a] => a.isEmpty
  | ["-n", a] => !a.isEmpty
  | ["-z", a] => a.isEmpty
  | [a] => !a.isEmpty
  | [a, "=", b] => a = b
  | [a, "!=", b] => a ≠ b
  | [a, "-eq", b] => a.toInt? = b.toInt?
  | [a, "-ne", b] => a.toInt? ≠ b.toInt?
  | [a, "-lt", b] => a.toInt?.getD 0 < b.toInt?.getD 0
  | [a, "-le", b] => a.toInt?.getD 0 ≤ b.toInt?.getD 0
  | [a, "-gt", b] => b.toInt?.getD 0 < a.toInt?.getD 0
  | [a, "-ge", b] => b.toInt?.getD 0 ≤ a.toInt?.getD 0
  | _ => false

/-- Sets what is done at signals. -/
def trap (arguments : List String) (w : Worker) : Worker :=
  match arguments with
  | action :: names =>
    let numbers := names.filterMap signalOf
    let kept := w.traps.filter fun t => !numbers.contains t.1
    { w with
      traps := if action = "-" then kept else numbers.map (·, action) ++ kept, code := 0 }
  | [] => w

/-- Reads a line of the input into the last of some names. -/
def readLine (names : List String) (w : Worker) : Worker :=
  let names := names.filter (· ≠ "-r")
  let line := w.input.takeWhile (· ≠ Echo.lineFeed)
  let rest := w.input.dropWhile (· ≠ Echo.lineFeed)
  let text := (Utf8.decode? line).getD ""
  { w with
    input := rest.drop 1
    values := names.reverse.take 1 |>.foldl (fun values name => (name, text) :: values) w.values
    code := if rest.isEmpty then 1 else 0 }

/-- Runs a program. -/
def invoke (s : Surroundings) (sinks : List (Nat × Sink)) : Nat → List String → Worker → Worker
  | 0, _, w => w
  | _, [], w => w.leaving 0
  | n + 1, name :: arguments, w =>
    let sink := (sinks.lookup 1).getD .away
    let errorSink := (sinks.lookup 2).getD .away
    match name with
    | ":" => w.leaving 0
    | "true" => w.leaving 0
    | "false" => w.leaving 1
    | "exit" => w.exit (((arguments.head?).bind String.toNat?).getD w.code)
    | "exec" =>
      if arguments.isEmpty then { w with sinks := sinks, code := 0 }
      else
        let w := { w with traps := w.traps.filter fun t => t.2.isEmpty }
        let w := invoke s sinks n arguments w
        if w.isActive && w.signalled.isNone then w.exit w.code else w
    | "sleep" => { w with time := arguments.foldl (fun t a => t + millis a) w.time, code := 0 }
    | "kill" =>
      let (signal, receivers) := sending arguments
      if receivers.contains ownNumber then { w with signalled := some signal, code := 0 }
      else w.leaving (if receivers.contains "" then 0 else 1)
    | "trap" => trap arguments w
    | "test" => w.leaving (if holds arguments then 0 else 1)
    | "[" => w.leaving (if holds arguments.dropLast then 0 else 1)
    | "set" => w.leaving 0
    | "export" => w.leaving 0
    | "break" => { w with hop := some .over }
    | "continue" => { w with hop := some .next }
    | "read" => readLine arguments w
    | "wait" =>
      match w.others with
      | some t => { w with time := max w.time t, listens := true, code := 0 }
      | none => { w with endless := true, listens := true }
    | _ =>
      match Program.work? s.files w.input name arguments with
      | some result =>
        ((w.leaving result.code).write s sink result.out).write s errorSink result.err
      | none =>
        (w.leaving 127).write s errorSink (Utf8.encode (s.called ++ ": " ++ name ++ ": not found\n"))

/-- Signals that do nothing to a process that has not been told what to do. -/
def harmless : List Nat := [0, 17, 18, 23, 28]

/-- Signals that make a process stand still. -/
def halting : List Nat := [19, 20, 21, 22]

/-- The text of an output, without the line ends at its end. -/
def textOf (bytes : List UInt8) : String :=
  (Utf8.decode? (bytes.reverse.dropWhile (· = Echo.lineFeed)).reverse).getD ""

/-- Follows a command, with a bound on the depth. -/
def follow (s : Surroundings) : Nat → Command → Worker → Worker
  | 0, _, w => { w with endless := true }
  | n + 1, c, w =>
    let source : Source :=
      { surroundings := s
        output := fun script w =>
          textOf (bytesOf (follow { s with heard := false } n
            (Command.ofScript (String.ofList script))
            { w with life := {}, sinks := firstSinks }).life.out) }
    if !w.isActive then w
    else
      match c with
      | .nothing => w
      | .program words leads =>
        let (words, named) := setNames source words w
        let arguments := words.flatMap (fields source w)
        if words.isEmpty then named.leaving 0
        else
          let w := invoke s (sinksOf w.sinks leads) (arguments.length + 1) arguments w
          match w.signalled with
          | none => w
          | some signal =>
            let w := { w with signalled := none }
            match w.traps.lookup signal with
            | some action =>
              if signal = 9 || signal = 19 then { w with ended := some (.signal signal false) }
              else if action.isEmpty then w
              else follow s n (Command.ofScript action) w
            | none =>
              if harmless.contains signal then w
              else if halting.contains signal then { w with endless := true }
              else { w with ended := some (.signal signal false) }
      | .sequence a b => follow s n b (follow s n a w)
      | .both a b =>
        let w := follow s n a w
        if w.code = 0 then follow s n b w else w
      | .either a b =>
        let w := follow s n a w
        if w.code = 0 then w else follow s n b w
      | .repeated works condition body =>
        let w := follow s n condition w
        if !w.isActive then w
        else if (w.code = 0) ≠ works then w.leaving 0
        else
          let w := follow s n body w
          match w.hop with
          | some .over => { w with hop := none, code := 0 }
          | _ => follow s n c { w with hop := none }
      | .choice condition yes no =>
        let w := follow s n condition w
        if w.code = 0 then follow s n yes w else follow s n no (w.leaving 0)
      | .case subject patterns yes no =>
        let text := (whole source w subject).map Prod.fst
        if patterns.any fun p => fits (whole source w p) text then follow s n yes (w.leaving 0)
        else follow s n no (w.leaving 0)
      | .eachOf name words body =>
        let turn (w : Worker) (text : String) : Worker :=
          if w.hop = some .over then w
          else follow s n body { w with hop := none, values := (name, text) :: w.values }
        let w := (words.flatMap (fields source w)).foldl turn w
        { w with hop := none }
      | .piped a b =>
        let first := follow { s with heard := false } n a { w with life := {}, sinks := firstSinks }
        let life := { w.life with err := first.life.err ++ w.life.err }
        let second := follow s n b { w with life := life, input := bytesOf first.life.out }
        { second with input := w.input, values := w.values }
      | .negated c =>
        let w := follow s n c w
        w.leaving (if w.code = 0 then 1 else 0)
      | .apart c =>
        let other := follow s n c w
        let code := match other.ended with
          | some (.code code) => code
          | some (.signal signal _) => 128 + signal
          | none => other.code
        { w with life := other.life, time := other.time, code := code, endless := other.endless }
      | .beside c =>
        let other := follow s n c w
        let time := if other.endless then none else some other.time
        { w with
          life := other.life, code := 0
          others := do return max (← w.others) (← time) }
      | .led c leads =>
        { follow s n c { w with sinks := sinksOf w.sinks leads } with sinks := w.sinks }

end Worker

/-- How deep commands are followed. -/
def depth : Nat := 4000

/-- What a process does when it is asked to end, unless it just ends.  A process that is busy does
not listen. -/
def farewellOf (s : Surroundings) (w : Worker) : Option Farewell :=
  (w.traps.lookup 15).map fun action =>
    if action.isEmpty || !(w.endless || w.listens) then {}
    else
      let w := Worker.follow s depth (Command.ofScript action)
        { w with life := {}, ended := none, endless := false, hop := none }
      ⟨Worker.bytesOf w.life.out, Worker.bytesOf w.life.err, w.ended.isSome⟩

/-- What was written, in order. -/
def inOrder (chunks : List (Nat × List UInt8)) : List (Nat × List UInt8) :=
  chunks.reverse.mergeSort fun a b => a.1 ≤ b.1

/-- The life of a process that follows a command. -/
def lifeOf (s : Surroundings) (c : Command) : Life :=
  let w := { Worker.follow s depth c {} with hop := none }
  let w := if w.isActive then w.exit w.code else w
  { out := inOrder w.life.out
    err := inOrder w.life.err
    ending := w.ended.map fun status => (w.time, status)
    farewell := farewellOf s w }

end Script
end ClusterControl
