import ClusterControl.Json.Value
/-!
# Terminal output

What the program shows to the person, or with JSON output to the program, that runs it.  Output for
a person has coloured marks; output for a program is one object per line with a type and a payload.
-/

namespace ClusterControl

/-- Text that was written to the two outputs of the program. -/
structure Printed where
  out : String := ""
  err : String := ""
deriving Repr, DecidableEq

namespace Printed

/-- A line on the standard output. -/
def line (s : String) : Printed := ⟨s ++ "\n", ""⟩

/-- A line on the error output. -/
def errorLine (s : String) : Printed := ⟨"", s ++ "\n"⟩

/-- One text after another. -/
def append (p q : Printed) : Printed := ⟨p.out ++ q.out, p.err ++ q.err⟩

instance : Append Printed := ⟨append⟩

/-- Texts one after another. -/
def concat (ps : List Printed) : Printed := ps.foldl append {}

end Printed

namespace Style

/-- A text between a style's code and the code that ends it. -/
def wrap (on off : String) (s : String) : String :=
  "\x1b[" ++ on ++ "m" ++ s ++ "\x1b[" ++ off ++ "m"

/-- Bold text. -/
def bold : String → String := wrap "1" "0"

/-- Faint text. -/
def dimmed : String → String := wrap "2" "0"

/-- Text in the colour with this code. -/
def coloured (code : Nat) : String → String := wrap (toString code) "39"

/-- Red text. -/
def red : String → String := coloured 31

/-- Green text. -/
def green : String → String := coloured 32

/-- Yellow text. -/
def yellow : String → String := coloured 33

/-- Cyan text. -/
def cyan : String → String := coloured 36

end Style

/-- A text with blanks behind it, up to a width. -/
def padded (width : Nat) (s : String) : String :=
  s ++ String.ofList (List.replicate (width - s.length) ' ')

/-- How the program shows things. -/
structure Terminal where
  json : Bool := false
  quiet : Bool := false
deriving Repr, DecidableEq

namespace Terminal

/-- An object on a line. -/
def object (kind : String) (payload : Json) : String :=
  (Json.table [("type", .str kind), ("payload", payload.sorted)]).compact

/-- Prints an object on a line. -/
def jsonLine (kind : String) (payload : Json) : Printed :=
  .line (object kind payload)

/-- Lines for a person are left out. -/
def isSilent (t : Terminal) : Bool :=
  !t.json && t.quiet

/-- Prints an object for a program, or lines for a person who wants them. -/
def say (t : Terminal) (kind : String) (members : List (String × Json)) (text : Printed) :
    Printed :=
  if t.json then jsonLine kind (.obj members) else if t.isSilent then {} else text

/-- Prints the name of the program and its version. -/
def header (t : Terminal) (version : String) : Printed :=
  t.say "header" [("app", .str "localnet"), ("version", .str version)]
    (.line (Style.bold "localnet" ++ " " ++ Style.dimmed version) ++ .line "")

/-- Prints a value with its label. -/
def field (t : Terminal) (label value : String) : Printed :=
  t.say "field" [("label", .str label), ("value", .str value)]
    (.line ("  " ++ Style.dimmed (padded 12 label) ++ " " ++ value))

/-- Prints that something worked. -/
def success (t : Terminal) (message : String) : Printed :=
  t.say "success" [("message", .str message)] (.line ("  " ++ Style.green "✓" ++ " " ++ message))

/-- Prints a warning, which is never left out. -/
def warning (t : Terminal) (message : String) : Printed :=
  if t.json then jsonLine "warning" (.obj [("message", .str message)])
  else .line ("  " ++ Style.yellow "⚠" ++ " " ++ message)

/-- Prints a failure, which is never left out. -/
def failure (t : Terminal) (message : String) : Printed :=
  if t.json then .errorLine (object "error" (.obj [("message", .str message)]))
  else .errorLine ("  " ++ Style.red "×" ++ " " ++ message)

/-- Prints a text as it is, for a person only. -/
def block (t : Terminal) (text : String) : Printed :=
  if t.json || t.isSilent then {} else .line text

/-- A value that stands out. -/
def highlight (t : Terminal) (value : String) : String :=
  if t.json then value else Style.cyan value

/-- A value that stands back. -/
def muted (t : Terminal) (value : String) : String :=
  if t.json then value else Style.dimmed value

/-- What a sign of progress says once the work is done.  It is drawn on a terminal only. -/
def spinnerDone (t : Terminal) (message : String) : String :=
  if t.json || t.quiet then message else Style.green "✓" ++ " " ++ message

/-- What a sign of progress says once the work has failed. -/
def spinnerFailed (t : Terminal) (message : String) : String :=
  if t.json then message else Style.red "×" ++ " " ++ message

end Terminal
end ClusterControl
