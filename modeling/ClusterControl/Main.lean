import ClusterControl.Program
/-!
# Running the program

The thin outer layer: it fetches the words of the command line and the files that they name, prints
what a run comes to, and ends with its code.  It has no sockets, so that it finds every server out
of reach and cannot listen.
-/

namespace ClusterControl

/-- A machine without sockets, with one file that was read beforehand. -/
def bareMachine (file : Except IoError (List UInt8)) : Machine where
  reach :=
    { obstacle? := Reach.isolated.obstacle?
      listen := fun _ _ => .error (.system 97) }
  fileAt _ := file
  pid := "0"

/-- The file that a command line names. -/
def configOf (words : List String) : Option Path :=
  match Invocation.parse words with
  | .ok ⟨_, _, .server flags⟩ => flags.config
  | _ => none

/-- Reads the file that a command line names, if it names one. -/
def fetch (path : Option Path) : IO (Except IoError (List UInt8)) := do
  match path with
  | none => return .error .notFound
  | some path =>
    try
      let bytes ← IO.FS.readBinFile path.text
      return .ok bytes.toList
    catch _ => return .error .notFound

end ClusterControl

/-- Runs the program. -/
def main (words : List String) : IO UInt32 := do
  let file ← ClusterControl.fetch (ClusterControl.configOf words)
  let run := ClusterControl.ProgramRun.ofWords (ClusterControl.bareMachine file) words
  (← IO.getStdout).putStr run.printed.out
  (← IO.getStderr).putStr run.printed.err
  return run.code.toUInt32
