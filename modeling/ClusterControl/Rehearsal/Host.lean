import ClusterControl.Path
import ClusterControl.Text.SystemCause
/-!
# The host of rehearsals

The machine that rehearsals run on, as far as answers depend on it.  Directories can be made
anywhere on its disk but below a plain file, and names and paths have greatest lengths.
-/

namespace ClusterControl
namespace Host

/-- The plain file that is always there. -/
def plainFile : List UInt8 := Utf8.encode "/dev/null"

/-- The greatest length of a name. -/
def maxName : Nat := 255

/-- The greatest length of a path. -/
def maxPath : Nat := 4095

/-- The parts of a path. -/
def parts (p : Path) : List (List UInt8) :=
  (p.bytes.splitBy fun a b => a ≠ Path.separator && b ≠ Path.separator).filter fun part =>
    part ≠ [Path.separator] && part ≠ Utf8.encode "."

/-- Why a directory cannot be made with all directories above it, if it cannot. -/
def creationFault? (p : Path) : Option IoError :=
  let names := parts p
  let file := parts ⟨plainFile⟩
  let rooted := p.bytes.head? = some Path.separator
  if p.isEmpty then none
  else if p.bytes.contains 0 then some (.custom "file name contained an unexpected NUL byte")
  else if maxPath < p.bytes.length then some (.system 36)
  else if rooted && names = file then some (.system 17)
  else if rooted && file.isPrefixOf names then some (.system 20)
  else if names.any fun name => maxName < name.length then some (.system 36)
  else none

/-- Directories and files that are always there and are no programs. -/
def fixtures : List String :=
  ["/", "/bin", "/dev", "/dev/null", "/etc", "/etc/hosts", "/etc/passwd", "/tmp", "/usr", "."]

/-- Programs that are always there, each with a script that does the same when it is given one
argument that it does not know. -/
def programs : List (String × String) := [
  ("true", "true"),
  ("false", "false"),
  ("echo", "echo \"$1\""),
  ("cat", "exit 1"),
  ("sleep", "exit 1"),
  ("sh", "exit 2")]

/-- Where programs are looked for. -/
def programDirs : List String := ["", "/bin/", "/usr/bin/"]

/-- The script of a program that is always there. -/
def program? (path : String) : Option String :=
  (programDirs.flatMap fun dir => programs.map fun p => (dir ++ p.1, p.2)).lookup path

/-- Why the file at a path cannot be read, if it is none of those that were put there. -/
def readFault (p : Path) : IoError :=
  match creationFault? p with
  | some (.system 17) => .notFound
  | some cause => cause
  | none => if p.text ≠ "." && fixtures.contains p.text then .system 21 else .notFound

/-- Why no process can be started from a path, if none can; `there` holds further paths at which
there is something that is no program. -/
def startFault? (there : List String) (path : String) : Option IoError :=
  if (program? path).isSome then none
  else if fixtures.contains path || there.contains path then some (.system 13)
  else
    match creationFault? (.ofText path) with
    | some cause => some cause
    | none => some .notFound

end Host
end ClusterControl
