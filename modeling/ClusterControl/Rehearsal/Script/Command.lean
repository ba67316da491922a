import ClusterControl.Rehearsal.Script.Word
/-!
# Commands of scripts

The commands that the lexemes of a script make up: programs with their arguments, and commands that
are joined, repeated or chosen between.
-/

namespace ClusterControl
namespace Script

/-- Where a channel leads. -/
inductive Lead
  | channel (n : Nat)
  | file
deriving Repr, DecidableEq

/-- A command. -/
inductive Command
  | nothing
  -- a program with its arguments, and channels that lead elsewhere
  | program (words : List Word) (leads : List (Nat × Lead))
  | sequence (a b : Command)
  | both (a b : Command)
  | either (a b : Command)
  -- the second for as long as the first works, or fails
  | repeated (works : Bool) (condition body : Command)
  -- the second or the third, by whether the first works
  | choice (condition yes no : Command)
  -- the command, or what follows it, by whether a word fits one of the patterns
  | case (subject : Word) (patterns : List Word) (yes no : Command)
  -- the command once for every text that some words stand for
  | eachOf (name : String) (words : List Word) (body : Command)
  -- the first, whose output is the input of the second
  | piped (a b : Command)
  | negated (c : Command)
  | apart (c : Command)
  -- a process of its own does the command while this one goes on
  | beside (c : Command)
  | led (c : Command) (leads : List (Nat × Lead))
deriving Repr

namespace Command

/-- A word of a script that is a keyword where a command may begin or end. -/
def keyword? : List Lexeme → Option String
  | .word w :: _ => plain? w
  | _ => none

/-- Skips separators. -/
def skipBreaks : List Lexeme → List Lexeme
  | .sign "\n" :: rest => skipBreaks rest
  | .sign ";" :: rest => skipBreaks rest
  | .sign "&" :: rest => skipBreaks rest
  | ls => ls

/-- Skips a keyword. -/
def skipKeyword (word : String) (ls : List Lexeme) : List Lexeme :=
  let ls := skipBreaks ls
  if keyword? ls = some word then ls.drop 1 else ls

/-- Where the word after a leading sign leads. -/
def leadOf (sign : String) (target : Word) : Lead :=
  match sign.toList.getLast?, (plain? target).bind String.toNat? with
  | some '&', some n => .channel n
  | _, _ => .file

/-- A program with its arguments. -/
def readProgram : List Lexeme → List Word → List (Nat × Lead) → Command × List Lexeme
  | .word w :: rest, words, leads => readProgram rest (words ++ [w]) leads
  | .redirect channel sign :: .word target :: rest, words, leads =>
    readProgram rest words (leads ++ [(channel, leadOf sign target)])
  | .redirect _ _ :: rest, words, leads => readProgram rest words leads
  | ls, words, leads => (.program words leads, ls)

/-- The channels that lead elsewhere behind a command. -/
def readLeads : List Lexeme → List (Nat × Lead) → List (Nat × Lead) × List Lexeme
  | .redirect channel sign :: .word target :: rest, leads =>
    readLeads rest (leads ++ [(channel, leadOf sign target)])
  | ls, leads => (leads, ls)

/-- A command with the channels that lead elsewhere behind it. -/
def withLeads (p : Command × List Lexeme) : Command × List Lexeme :=
  let (leads, ls) := readLeads p.2 []
  (if leads.isEmpty then p.1 else .led p.1 leads, ls)

/-- Words up to a separator. -/
def readWords : List Lexeme → List Word × List Lexeme
  | .word w :: rest =>
    let (words, rest) := readWords rest
    (w :: words, rest)
  | ls => ([], ls)

/-- The name that a loop sets, the words that it goes through, and what is left. -/
def readEach (ls : List Lexeme) : String × List Word × List Lexeme :=
  let name := (keyword? ls).getD ""
  let ls := skipBreaks (ls.drop 1)
  if keyword? ls = some "in" then (name, readWords (ls.drop 1))
  else (name, [[.value "@" false]], ls)

/-- The words at which a list of commands ends. -/
def stops : List String := ["do", "done", "then", "elif", "else", "fi", "esac", "\x7d"]

/-- The patterns of a case, up to the bracket behind them. -/
def readPatterns : List Lexeme → List Word × List Lexeme
  | .sign ")" :: rest => ([], rest)
  | .sign "(" :: rest => readPatterns rest
  | .sign "|" :: rest => readPatterns rest
  | .word w :: rest =>
    let (patterns, rest) := readPatterns rest
    (w :: patterns, rest)
  | ls => ([], ls)

mutual

/-- A list of commands, up to a word that ends it. -/
def readList : Nat → List Lexeme → Command × List Lexeme
  | 0, ls => (.nothing, ls)
  | n + 1, ls =>
    let ls := skipBreaks ls
    let ends := match ls with
      | [] => true
      | .sign s :: _ => s ≠ "("
      | _ => (keyword? ls).any stops.contains
    if ends then (.nothing, ls)
    else
      let (first, ls) := readJoined n ls
      let first := if ls.head? = some (.sign "&") then .beside first else first
      let (rest, ls) := readList n ls
      (.sequence first rest, ls)

/-- Commands that are joined. -/
def readJoined : Nat → List Lexeme → Command × List Lexeme
  | 0, ls => (.nothing, ls)
  | n + 1, ls =>
    let (first, ls) := readPiped n ls
    joinMore n first ls

/-- Commands of which each reads what the one before it writes. -/
def readPiped : Nat → List Lexeme → Command × List Lexeme
  | 0, ls => (.nothing, ls)
  | n + 1, ls =>
    if keyword? ls = some "!" then
      let (c, ls) := readPiped n (ls.drop 1)
      (.negated c, ls)
    else
      let (first, ls) := withLeads (readOne n ls)
      match ls with
      | .sign "|" :: ls =>
        let (second, ls) := readPiped n (skipBreaks ls)
        (.piped first second, ls)
      | ls => (first, ls)

/-- What a command is joined with. -/
def joinMore : Nat → Command → List Lexeme → Command × List Lexeme
  | 0, c, ls => (c, ls)
  | n + 1, c, .sign "&&" :: ls =>
    let (d, ls) := readPiped n (skipBreaks ls)
    joinMore n (.both c d) ls
  | n + 1, c, .sign "||" :: ls =>
    let (d, ls) := readPiped n (skipBreaks ls)
    joinMore n (.either c d) ls
  | _, c, ls => (c, ls)

/-- One command. -/
def readOne : Nat → List Lexeme → Command × List Lexeme
  | 0, ls => (.nothing, ls)
  | n + 1, ls =>
    match keyword? ls with
    | some "for" =>
      let (name, words, ls) := readEach (ls.drop 1)
      let (body, ls) := readList n (skipKeyword "do" ls)
      (.eachOf name words body, skipKeyword "done" ls)
    | some "while" => readLoop n true (ls.drop 1)
    | some "until" => readLoop n false (ls.drop 1)
    | some "if" => readChoice n (ls.drop 1)
    | some "\x7b" =>
      let (body, ls) := readList n (ls.drop 1)
      (body, skipKeyword "\x7d" ls)
    | some "case" =>
      match ls.drop 1 with
      | .word subject :: ls => readCases n subject (skipKeyword "in" ls)
      | ls => (.nothing, ls)
    | _ =>
      match ls with
      | .sign "(" :: ls =>
        let (body, ls) := readList n ls
        (.apart body, if ls.head? = some (.sign ")") then ls.drop 1 else ls)
      | ls => readProgram ls [] []

/-- A loop, after its keyword. -/
def readLoop : Nat → Bool → List Lexeme → Command × List Lexeme
  | 0, _, ls => (.nothing, ls)
  | n + 1, works, ls =>
    let (condition, ls) := readList n ls
    let (body, ls) := readList n (skipKeyword "do" ls)
    (.repeated works condition body, skipKeyword "done" ls)

/-- A choice, after its keyword. -/
def readChoice : Nat → List Lexeme → Command × List Lexeme
  | 0, ls => (.nothing, ls)
  | n + 1, ls =>
    let (condition, ls) := readList n ls
    let (yes, ls) := readList n (skipKeyword "then" ls)
    if keyword? ls = some "elif" then
      let (no, ls) := readChoice n (ls.drop 1)
      (.choice condition yes no, ls)
    else if keyword? ls = some "else" then
      let (no, ls) := readList n (ls.drop 1)
      (.choice condition yes no, skipKeyword "fi" ls)
    else (.choice condition yes .nothing, skipKeyword "fi" ls)

/-- The cases of a subject, up to the word that ends them. -/
def readCases : Nat → Word → List Lexeme → Command × List Lexeme
  | 0, _, ls => (.nothing, ls)
  | n + 1, subject, ls =>
    let ls := skipBreaks ls
    if ls.isEmpty || keyword? ls = some "esac" then (.nothing, ls.drop 1)
    else
      let (patterns, ls) := readPatterns ls
      let (yes, ls) := readList n ls
      let ls := match ls with
        | .sign ";;" :: ls => ls
        | ls => ls
      let (no, ls) := readCases n subject ls
      (.case subject patterns yes no, ls)

end

/-- The command that a script stands for. -/
def ofScript (script : String) : Command :=
  let ls := lexemesOf script
  (readList (6 * ls.length + 6) ls).1

end Command
end Script
end ClusterControl
