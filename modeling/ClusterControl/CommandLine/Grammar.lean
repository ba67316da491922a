import ClusterControl.Text.Utf8
/-!
# Reading a command line

A command takes options, at most one plain argument, and subcommands.  The words of a command line
are read from left to right; the first word that cannot be read, and after the last word the first
thing that is missing, is what a caller is told of.

An option's value is looked at only when the next option of the same command begins or the command
ends, so that a mistake in a subcommand goes before a bad value in front of it.
-/

namespace ClusterControl

/-- Why a command line was not read, or what it asks for instead of a command. -/
inductive UsageError
  | help
  -- there is nothing but the name of a command that needs more
  | helpInstead
  | version
  -- a word that is no option, or an argument too many
  | unknownArgument
  | invalidSubcommand
  | missingSubcommand
  | repeated
  | tooManyValues
  | noValue
  -- a value that is not of the right kind
  | badValue
  -- an option or argument that is needed is not there
  | missingArgument
deriving Repr, DecidableEq

/-- What an option takes. -/
inductive OptionKind
  | flag
  | text
  | path
  -- a number from 0 to this one; a port may be written with a minus if it is zero
  | number (max : Nat) (signed : Bool)
  | help
  | version
deriving Repr, DecidableEq

/-- An option of a command. -/
structure OptionSpec where
  name : String
  short : Option Char := none
  kind : OptionKind
deriving Repr, DecidableEq

/-- An option takes a value. -/
def OptionSpec.takesValue (o : OptionSpec) : Bool :=
  match o.kind with
  | .flag => false
  | .help => false
  | .version => false
  | _ => true

/-- What a command takes. -/
inductive CommandSpec
  -- a command with its name, options, plain argument, needed names and subcommands
  | mk (name : String) (options : List OptionSpec) (argument : Option String)
    (needed : List String) (subcommands : List CommandSpec)

namespace CommandSpec

/-- The name of a command. -/
def name : CommandSpec → String
  | mk name _ _ _ _ => name

/-- Its options. -/
def options : CommandSpec → List OptionSpec
  | mk _ options _ _ _ => options

/-- The name of its plain argument, if it takes one. -/
def argument : CommandSpec → Option String
  | mk _ _ argument _ _ => argument

/-- The names that must be given. -/
def needed : CommandSpec → List String
  | mk _ _ _ needed _ => needed

/-- Its subcommands. -/
def subcommands : CommandSpec → List CommandSpec
  | mk _ _ _ _ subcommands => subcommands

/-- The option with a long name. -/
def long? (c : CommandSpec) (name : String) : Option OptionSpec :=
  c.options.find? fun o => o.name = name

/-- The option with a short name. -/
def short? (c : CommandSpec) (letter : Char) : Option OptionSpec :=
  c.options.find? fun o => o.short = some letter

/-- The subcommand with a name. -/
def subcommand? (c : CommandSpec) (name : String) : Option CommandSpec :=
  c.subcommands.find? fun s => s.name = name

end CommandSpec

/-- What was given for a name. -/
inductive Given
  | flag
  | text (s : String)
  | number (n : Nat)
deriving Repr, DecidableEq

/-- What a command line gives: the names of the subcommands, and what was given for which name. -/
structure Parsed where
  commands : List String := []
  given : List (String × Given) := []
deriving Repr

/-- The number that digits stand for; `none` for anything else. -/
def decimal? (cs : List Char) : Option Nat :=
  if cs.isEmpty || !cs.all Char.isDigit then none
  else some (cs.foldl (fun n c => n * 10 + (c.toNat - '0'.toNat)) 0)

/-- A number with an optional plus, or, where signs count, with a minus. -/
def signedDecimal? (signed : Bool) (cs : List Char) : Option Int :=
  match cs with
  | '+' :: rest => (decimal? rest).map Int.ofNat
  | '-' :: rest => if signed then (decimal? rest).map fun n => -(Int.ofNat n) else none
  | cs => (decimal? cs).map Int.ofNat

/-- The value of an option. -/
def OptionSpec.value (o : OptionSpec) (s : String) : Except UsageError Given :=
  match o.kind with
  | .path => if s.isEmpty then .error .noValue else .ok (.text s)
  | .number max signed =>
    match signedDecimal? signed s.toList with
    | some i => if 0 ≤ i ∧ i ≤ (max : Int) then .ok (.number i.toNat) else .error .badValue
    | none => .error .badValue
  | _ => .ok (.text s)

/-- A command line as far as it was read. -/
structure Progress where
  -- an option whose value is not looked at yet, with the value if it is there
  pending : Option (OptionSpec × Option String) := none
  plain : Bool := false
  -- what was given for which name of this command
  given : List (String × Given) := []

namespace Progress

/-- Something was given for a name before. -/
def has (p : Progress) (name : String) : Bool :=
  p.given.any fun g => g.1 = name

/-- Takes what is given for a name, once. -/
def take (p : Progress) (name : String) (value : Except UsageError Given) :
    Except UsageError Progress :=
  if p.has name then .error .repeated
  else do .ok { p with given := p.given ++ [(name, ← value)] }

/-- Looks at the value that is not looked at yet. -/
def settle (p : Progress) : Except UsageError Progress :=
  match p.pending with
  | none => .ok p
  | some (_, none) => .error .noValue
  | some (o, some s) => { p with pending := none }.take o.name (o.value s)

/-- Takes an option without a value. -/
def takeFlag (p : Progress) (o : OptionSpec) : Except UsageError Progress := do
  let p ← p.settle
  match o.kind with
  | .help => .error .help
  | .version => .error .version
  | _ => p.take o.name (.ok .flag)

/-- Takes an option with its value, or waits for the value. -/
def takeOption (p : Progress) (o : OptionSpec) (value : Option String) :
    Except UsageError Progress := do
  let p ← p.settle
  match value with
  | some s => p.take o.name (o.value s)
  | none => .ok { p with pending := some (o, none) }

/-- The value of the last option is still to come. -/
def awaitsValue (p : Progress) : Bool :=
  match p.pending with
  | some (_, none) => true
  | _ => false

end Progress

/-- The long name of a word and the value after its equals sign. -/
def longParts (cs : List Char) : String × Option String :=
  let name := cs.takeWhile (· ≠ '=')
  match cs.dropWhile (· ≠ '=') with
  | [] => (String.ofList name, none)
  | _ :: value => (String.ofList name, some (String.ofList value))

/-- Reads a word with a long name. -/
def readLong (c : CommandSpec) (p : Progress) (cs : List Char) : Except UsageError Progress :=
  let (name, value) := longParts cs
  match c.long? name with
  | none => .error .unknownArgument
  | some o =>
    if o.takesValue then p.takeOption o value
    else if value.isSome then .error .tooManyValues
    else p.takeFlag o

/-- Reads a word of short names, the last of which may have its value attached. -/
def readShort (c : CommandSpec) : Progress → List Char → Except UsageError Progress
  | p, [] => .ok p
  | p, letter :: rest =>
    match c.short? letter with
    | none => .error .unknownArgument
    | some o =>
      if o.takesValue then
        match rest with
        | [] => p.takeOption o none
        | '=' :: value => p.takeOption o (some (String.ofList value))
        | value => p.takeOption o (some (String.ofList value))
      else do readShort c (← p.takeFlag o) rest

/-- Reads a plain argument. -/
def readPlain (c : CommandSpec) (p : Progress) (word : String) : Except UsageError Progress :=
  match c.argument with
  | some name =>
    if p.has name then .error .unknownArgument
    else do (← p.settle).take name (.ok (.text word))
  | none =>
    if c.subcommands.isEmpty then .error .unknownArgument
    else if p.plain && (word = "help" || (c.subcommand? word).isSome) then .error .unknownArgument
    else .error .invalidSubcommand

/-- Reads the words after a request for help with a subcommand. -/
def readHelp : CommandSpec → List String → UsageError
  | _, [] => .help
  | c, word :: words =>
    match c.subcommand? word with
    | some sub => readHelp sub words
    | none => if word = "help" && !c.subcommands.isEmpty && words.isEmpty then .help
      else .invalidSubcommand

/-- What is missing after the last word of a command. -/
def checkComplete (c : CommandSpec) (p : Progress) (hasSubcommand : Bool) : Except UsageError Unit :=
  if !hasSubcommand && !c.subcommands.isEmpty then
    .error (if p.given.isEmpty then .helpInstead else .missingSubcommand)
  else if c.needed.any fun name => !p.has name then .error .missingArgument
  else .ok ()

/-- Reads the words of a command. -/
def readCommand (c : CommandSpec) : List String → Progress → Except UsageError Parsed
  | [], p => do
    let p ← p.settle
    checkComplete c p false
    .ok { given := p.given }
  | word :: words, p =>
    if p.plain then do readCommand c words (← readPlain c p word)
    else
      let sub := if p.awaitsValue then none else c.subcommand? word
      match sub with
      | some sub => do
        let inner ← readCommand sub words {}
        let p ← p.settle
        checkComplete c p true
        .ok { commands := sub.name :: inner.commands, given := p.given ++ inner.given }
      | none =>
        if !p.awaitsValue && word = "help" && !c.subcommands.isEmpty then .error (readHelp c words)
        else
          match word.toList with
          | ['-', '-'] => readCommand c words { p with plain := true }
          | '-' :: '-' :: name => do readCommand c words (← readLong c p name)
          | '-' :: letter :: letters => do
            readCommand c words (← readShort c p (letter :: letters))
          | _ =>
            match p.pending with
            | some (o, none) => readCommand c words { p with pending := some (o, some word) }
            | _ => do readCommand c words (← readPlain c p word)

end ClusterControl
