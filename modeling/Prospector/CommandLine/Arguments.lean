import Prospector.Settings.Basic
import Prospector.Text.Digit
import Prospector.Text.Occurrence

/-!
# Command-line arguments

A command names a settings file and may replace some of the settings, choose sources, and ask for a
rehearsal without a crawl. Options are long (`--name`, `--name=value`, `--name value`) or short
(`-n`, several as `-nm`); behind `--` there are only file names. Help and version are given as soon
as they are asked for, unless an argument before is wrong.

## Main definitions

* `Options` : what a command asks for.
* `Command.ofArguments` : the command that arguments write.
* `UsageFault` : why arguments are not a command.
-/

namespace Prospector

/-- What a command asks for. -/
structure Options where
  /-- The file of the settings. -/
  config : String
  /-- How often more words about the progress were asked for. -/
  verbosity : Nat := 0
  quiet : Bool := false
  /-- The sources to crawl; without any all of them. -/
  sources : List String := []
  overrides : Overrides := {}
  /-- Whether nothing is crawled. -/
  dryRun : Bool := false
  deriving DecidableEq, Repr, Inhabited

/-- A command. -/
inductive Command where
  | help
  | version
  | crawl (options : Options)
  deriving DecidableEq, Repr, Inhabited

/-- Why arguments are not a command. -/
inductive UsageFault where
  | unexpected (argument : String)
  | needsNoValue (option : String)
  | needsValue (option : String)
  | badValue (option value : String)
  | repeated (option : String)
  | conflict
  | noConfig
  deriving DecidableEq, Repr, Inhabited

namespace UsageFault

/-- What is said about wrong arguments. -/
def message : UsageFault → String
  | .unexpected argument => "unexpected argument '" ++ argument ++ "' found"
  | .needsNoValue option => "the argument '" ++ option ++ "' takes no value"
  | .needsValue option => "a value is required for '" ++ option ++ "' but none was supplied"
  | .badValue option value => "invalid value '" ++ value ++ "' for '" ++ option ++ "'"
  | .repeated option => "the argument '" ++ option ++ "' cannot be used multiple times"
  | .conflict => "the argument '--quiet' cannot be used with '--verbose'"
  | .noConfig => "the required argument '<CONFIG>' was not provided"

end UsageFault

namespace CommandLine

/-! ## Options -/

/-- An option that stands alone. -/
inductive Flag where
  | verbose
  | quiet
  | dryRun
  | strictRules
  | help
  | version
  deriving DecidableEq, Repr, Inhabited

/-- An option with a value. -/
inductive Setting where
  | source
  | maxPages
  | maxDepth
  | maxWorkers
  | output
  deriving DecidableEq, Repr, Inhabited

/-- An option. -/
inductive Switch where
  | flag (f : Flag)
  | setting (s : Setting)
  deriving DecidableEq, Repr, Inhabited

/-- The option with a long name. -/
def Switch.ofName? (name : String) : Option Switch :=
  [("verbose", .flag .verbose), ("quiet", .flag .quiet), ("dry-run", .flag .dryRun),
    ("strict-rules", .flag .strictRules), ("help", .flag .help), ("version", .flag .version),
    ("source", .setting .source), ("max-pages", .setting .maxPages),
    ("max-depth", .setting .maxDepth), ("max-workers", .setting .maxWorkers),
    ("output", .setting .output)].lookup name

/-- The option with a short name. All of them stand alone. -/
def Flag.ofLetter? (letter : Char) : Option Flag :=
  [('v', .verbose), ('q', .quiet), ('h', .help), ('V', .version)].lookup letter

/-! ## Numbers -/

/-- A number that decimal digits write. -/
def digits? (cs : List Char) : Option Nat :=
  if cs.isEmpty || !cs.all Text.isDigit then none else some (Text.decimalValue cs)

/-- A count of 64 bits; a plus sign may stand before it. -/
def count? (s : String) : Option Nat :=
  let digits := match s.toList with
    | '+' :: cs => cs
    | cs => cs
  (digits? digits).filter (· < Nat.pow 2 64)

/-- A depth of 32 bits; a plus sign may stand before it, and a minus sign before zero. -/
def depth? (s : String) : Option Nat :=
  match s.toList with
  | '-' :: cs => (digits? cs).filter (· == 0)
  | '+' :: cs => (digits? cs).filter (· < Nat.pow 2 32)
  | cs => (digits? cs).filter (· < Nat.pow 2 32)

/-! ## Drafts -/

/-- What the arguments so far ask for; the file of the settings may be missing yet. -/
structure Draft where
  config : Option String := none
  options : Options := { config := "" }
  deriving Inhabited

/-- A change of the settings to replace, which may be made once. -/
def Draft.replace {α : Type} (d : Draft) (option : String) (old : Option α) (o : Overrides) :
    Except UsageFault Draft :=
  if old.isSome then .error (.repeated option)
  else .ok { d with options := { d.options with overrides := o } }

/-- The draft after an option that stands alone, help and version apart. -/
def Draft.raise (d : Draft) : Flag → Except UsageFault Draft
  | .quiet =>
    if d.options.quiet then .error (.repeated "--quiet")
    else .ok { d with options := { d.options with quiet := true } }
  | .dryRun =>
    if d.options.dryRun then .error (.repeated "--dry-run")
    else .ok { d with options := { d.options with dryRun := true } }
  | .strictRules =>
    let o := d.options.overrides
    d.replace "--strict-rules" o.strictRules { o with strictRules := some true }
  | .verbose => .ok { d with options := { d.options with verbosity := d.options.verbosity + 1 } }
  | .help | .version => .ok d

/-- The draft after an option with a value. -/
def Draft.assign (d : Draft) (value : String) : Setting → Except UsageFault Draft
  | .source => .ok { d with options := { d.options with sources := d.options.sources ++ [value] } }
  | .maxPages => numeric "--max-pages" count? d.options.overrides.maxPages
      fun o n => { o with maxPages := some n }
  | .maxDepth => numeric "--max-depth" depth? d.options.overrides.maxDepth
      fun o n => { o with maxDepth := some n }
  | .maxWorkers => numeric "--max-workers" count? d.options.overrides.maxWorkers
      fun o n => { o with maxWorkers := some n }
  | .output =>
    let o := d.options.overrides
    d.replace "--output" o.resultsPath { o with resultsPath := some value }
where
  /-- The draft after an option whose value is a number. -/
  numeric (option : String) (read : String → Option Nat) (old : Option Nat)
      (put : Overrides → Nat → Overrides) : Except UsageFault Draft :=
    match read value with
    | some n => d.replace option old (put d.options.overrides n)
    | none => .error (.badValue option value)

/-- The draft with the file of the settings, of which there is one. -/
def Draft.name (d : Draft) (file : String) : Except UsageFault Draft :=
  if d.config.isSome then .error (.unexpected file)
  else if file.isEmpty then .error (.badValue "<CONFIG>" file)
  else .ok { d with config := some file }

/-- The command that a draft amounts to when no arguments are left. -/
def Draft.finish (d : Draft) : Except UsageFault Command :=
  match d.config with
  | none => .error .noConfig
  | some config =>
    if d.options.quiet && d.options.verbosity != 0 then .error .conflict
    else .ok (.crawl { d.options with config })

/-! ## Arguments -/

/-- Whether an argument can be the value of the option before it. -/
def isValue (argument : String) : Bool :=
  argument == "-" || !argument.startsWith "-"

/-- The arguments behind `--`: they are file names. -/
def readNames (d : Draft) (arguments : List String) : Except UsageFault Command := do
  (← arguments.foldlM Draft.name d).finish

/-- Short options written together: a command if help or version are among them, else the draft
after them. -/
def readLetters (d : Draft) (argument : String) : List Char → Except UsageFault (Command ⊕ Draft)
  | [] => .ok (.inr d)
  | letter :: rest =>
    match Flag.ofLetter? letter with
    | none => .error (.unexpected argument)
    | some .help => .ok (.inl .help)
    | some .version => .ok (.inl .version)
    | some f => do readLetters (← d.raise f) argument rest

/-- A long argument without its dashes: the name of an option and, behind an equals sign, its
value. -/
def splitLong (argument : String) : String × Option String :=
  let cs := argument.toList.drop 2
  let name := cs.takeWhile (· != '=')
  match cs.drop name.length with
  | [] => (String.ofList name, none)
  | _ :: value => (String.ofList name, some (String.ofList value))

/-- The command that arguments write, after those that a draft stands for. -/
def read (d : Draft) : List String → Except UsageFault Command
  | [] => d.finish
  | argument :: rest =>
    if argument == "--" then readNames d rest
    else if argument.startsWith "--" then
      let (name, value) := splitLong argument
      match Switch.ofName? name, value with
      | none, _ => .error (.unexpected argument)
      | some (.flag _), some _ => .error (.needsNoValue ("--" ++ name))
      | some (.flag .help), none => .ok .help
      | some (.flag .version), none => .ok .version
      | some (.flag f), none => do read (← d.raise f) rest
      | some (.setting s), some value => do read (← d.assign value s) rest
      | some (.setting s), none =>
        match rest with
        | value :: rest =>
          if isValue value then do read (← d.assign value s) rest
          else .error (.needsValue ("--" ++ name))
        | [] => .error (.needsValue ("--" ++ name))
    else if isValue argument then do read (← d.name argument) rest
    else do
      match ← readLetters d argument (argument.toList.drop 1) with
      | .inl command => .ok command
      | .inr d => read d rest

end CommandLine

/-- The command that arguments write. -/
def Command.ofArguments (arguments : List String) : Except UsageFault Command :=
  CommandLine.read {} arguments

end Prospector
