import Prospector.CommandLine.Arguments
import Prospector.Crawl.Harvest
import Prospector.Settings.Load

/-!
# What a command does

A command is a function of its arguments, the files and the web: it ends with an exit code, what it
has printed, the files then and the requests that it made. Nothing is crawled and no file is touched
before the arguments, the settings, the settings replaced by options and the chosen sources are in
order.

## Main definitions

* `Completion` : how a command ends.
* `Failure` : why a command fails, with the causes behind it.
* `Command.perform`, `CommandLine.execute` : how a command, or a list of arguments, ends.
-/

namespace Prospector

/-- How a command ends. -/
structure Completion where
  exitCode : Nat := 0
  output : String := ""
  errors : String := ""
  files : FileTree
  /-- The requests that reached a server, the first one first. -/
  requests : List String := []

/-! ## Failures -/

/-- Why a command fails, and the causes behind it, the nearest one first. -/
structure Failure where
  context : String
  causes : List String := []
  deriving DecidableEq, Repr, Inhabited

namespace Failure

/-- A text with every line break followed by blanks. -/
def indented (width : Nat) (s : String) : String :=
  ("\n" ++ "".pushn ' ' width).intercalate
    ((Text.splitAtChar '\n' s.toList).map String.ofList)

/-- One cause of several, with its number. -/
def numbered (cause : Nat × String) : String :=
  String.ofList (Text.padLeft 5 ' ' (Text.decimal cause.1)) ++ ": " ++ indented 7 cause.2

/-- The lines on the causes. -/
def causeLines : List String → List String
  | [] => []
  | [cause] => ["", "Caused by:", "    " ++ indented 4 cause]
  | causes => "" :: "Caused by:" :: (causes.zipIdx.map fun c => numbered (c.2, c.1))

/-- What is said about a failure. -/
def text (f : Failure) : String :=
  "\n".intercalate (("Error: " ++ f.context) :: causeLines f.causes) ++ "\n"

end Failure

/-- What is said about a file fault inside a larger one: that one, then the file fault itself. -/
def FileFault.causes (f : FileFault) (outer : String) : List String :=
  [outer, f.message]

/-- The causes behind settings that could not be loaded. -/
def SettingsFault.causes (f : SettingsFault) : List String :=
  match f with
  | .file fault => fault.causes f.message
  | _ => [f.message]

/-- The causes behind a source that could not be crawled. -/
def CrawlFault.causes (f : CrawlFault) : List String :=
  match f with
  | .start fault => [f.message, fault.message]
  | .noRule _ => [f.message]

/-- The causes behind results that could not be saved. -/
def StoreFault.causes (f : StoreFault) : List String :=
  match f with
  | .file fault => fault.causes f.message
  | .shape => [f.message]

/-! ## Preparation -/

namespace Options

/-- The settings of a command, with some of them replaced by its options. -/
def settings (o : Options) (t : FileTree) : Except Failure Settings :=
  match Settings.load t o.config with
  | .error fault => .error ⟨"Failed to load configuration " ++ o.config, fault.causes⟩
  | .ok (loaded, _) =>
    let s := loaded.override o.overrides
    match s.overrideViolation? with
    | some v => .error ⟨"Invalid command-line override", [v.message]⟩
    | none => .ok s

/-- The sources that a command is about, in the order of the settings. -/
def selected (o : Options) (s : Settings) : Except Failure (List Source) :=
  if o.sources.isEmpty then .ok s.sources
  else
    match o.sources.find? fun name => !s.sources.any fun source => source.name == name with
    | some name => .error ⟨"Unknown source '" ++ name ++ "'", []⟩
    | none => .ok (s.sources.filter fun source => o.sources.contains source.name)

/-- The settings of a command and the sources that it is about. -/
def plan (o : Options) (t : FileTree) : Except Failure (Settings × List Source) := do
  let s ← o.settings t
  .ok (s, ← o.selected s)

end Options

/-! ## Rehearsals -/

namespace CommandLine

/-- A number in decimal digits. -/
def number (n : Nat) : String :=
  String.ofList (Text.decimal n)

/-- Lines, each with its line break. -/
def unlines (lines : List String) : String :=
  String.join (lines.map fun line => line ++ "\n")

/-- What a rehearsal says about a source. -/
def sourceLines (s : Source) : List String :=
  ["  - " ++ s.name ++ " (" ++ s.rootUrl ++ ")"] ++
    (s.rulesFile.map fun file => "    rules: " ++ file).toList ++
    s.problems.map fun p => "    ! " ++ p.message

/-- What a rehearsal says. -/
def rehearsal (s : Settings) (sources : List Source) : String :=
  unlines
    (["=== Product-Scout Dry Run ===", "",
      "Crawler Configuration:",
      "  Max pages: " ++ number s.pace.maxPages,
      "  Max depth: " ++ number s.pace.maxDepth,
      "  Max workers: " ++ number s.pace.maxWorkers,
      "  Request timeout: " ++ number s.pace.timeoutSeconds ++ "s",
      "  Request delay: " ++ number s.pace.delayMilliseconds ++ "ms",
      "  Strict rules: " ++ (if s.pace.strictRules then "true" else "false"), "",
      "User Agent:",
      "  " ++ s.identity.header, "",
      "Output:",
      "  Results: " ++ s.resultsPath, "",
      "Sources (" ++ number sources.length ++ "):"] ++
      sources.flatMap sourceLines ++
      ["", "✓ Configuration is valid"])

end CommandLine

/-! ## Crawls -/

namespace Harvest

/-- Whether a command goes on with the next source: the crawl came to its end and its products were
saved. -/
def isComplete (h : Harvest) : Bool :=
  match h.gain with
  | .ok gain => !gain.interrupted && gain.saved.isOk
  | .error _ => false

/-- The failure that a harvest is, if it is one. -/
def failure? (resultsPath : String) (h : Harvest) : Option Failure :=
  match h.gain with
  | .error fault => some ⟨"Crawl of source '" ++ h.source ++ "' failed", fault.causes⟩
  | .ok gain =>
    match gain.saved with
    | .error fault => some ⟨"Failed to save results to " ++ resultsPath, fault.causes⟩
    | .ok _ => none

/-- What is printed about a harvest: the statistics of the crawl, once its products are saved. -/
def summary (h : Harvest) : String :=
  match h.gain with
  | .ok { report, saved := .ok _, .. } => report.statistics.summary h.source ++ "\n"
  | _ => ""

end Harvest

namespace Completion

/-- The end of a command that fails before it has done anything. -/
def failed (t : FileTree) (f : Failure) : Completion :=
  { exitCode := 1, errors := f.text, files := t }

/-- The end of a command that has crawled. -/
def ofHarvests (resultsPath : String) (hs : List Harvest) (t : FileTree) : Completion :=
  let failure := hs.findSome? fun h => h.failure? resultsPath
  { exitCode := if failure.isSome then 1 else 0
    output := String.join (hs.map Harvest.summary)
    errors := (failure.map Failure.text).getD ""
    files := t
    requests := hs.flatMap Harvest.requests }

end Completion

/-- The failure of a command whose requests could not be sent. -/
def Failure.header : Failure :=
  ⟨"Failed to build HTTP client",
    ["builder error: failed to parse header value", "failed to parse header value"]⟩

/-- Crawls the given sources, unless requests cannot carry the identity. -/
def Settings.crawlAll (s : Settings) (w : Web) (t : FileTree) (sources : List Source) :
    Completion :=
  if isHeader s.identity.header then
    let (hs, t) := s.harvest w (fun _ => Session.inTurn) Harvest.isComplete t sources
    .ofHarvests s.resultsPath hs t
  else .failed t .header

/-! ## Commands -/

namespace CommandLine

/-- The version of the program. -/
def versionText : String :=
  "product-scout 0.1.0\n"

/-- How the program is called. -/
def usage : String :=
  "Usage: product-scout [OPTIONS] <CONFIG>"

/-- What the program says about itself. -/
def helpText : String :=
  unlines [
    "A rule-driven product page crawler",
    "",
    usage,
    "",
    "Arguments:",
    "  <CONFIG>  Path to TOML configuration file",
    "",
    "Options:",
    "  -v, --verbose...       Increase logging verbosity (-v, -vv, -vvv)",
    "  -q, --quiet            Suppress non-error output",
    "      --source <NAME>    Only crawl the named source (repeatable)",
    "      --max-pages <N>    Override the per-source page quota",
    "      --max-depth <N>    Override the maximum link depth",
    "      --max-workers <N>  Override the number of concurrent fetches",
    "      --output <PATH>    Override the results file",
    "      --dry-run          Validate config and show what would be crawled without " ++
      "actually crawling",
    "      --strict-rules     Reject malformed detection rules instead of ignoring them",
    "  -h, --help             Print help",
    "  -V, --version          Print version"]

/-- What is said about arguments that are not a command. -/
def usageText (f : UsageFault) : String :=
  unlines ["error: " ++ f.message, "", usage, "", "For more information, try '--help'."]

end CommandLine

/-- How a crawl or its rehearsal ends. -/
def Options.perform (o : Options) (t : FileTree) (w : Web) : Completion :=
  match o.plan t with
  | .error f => .failed t f
  | .ok (s, sources) =>
    if o.dryRun then { output := CommandLine.rehearsal s sources, files := t }
    else s.crawlAll w t sources

/-- How a command ends. -/
def Command.perform (t : FileTree) (w : Web) : Command → Completion
  | .help => { output := CommandLine.helpText, files := t }
  | .version => { output := CommandLine.versionText, files := t }
  | .crawl o => o.perform t w

namespace CommandLine

/-- How the command that arguments write ends. -/
def execute (arguments : List String) (t : FileTree) (w : Web) : Completion :=
  match Command.ofArguments arguments with
  | .ok command => command.perform t w
  | .error fault => { exitCode := 2, errors := usageText fault, files := t }

/-- The files that a command may read or write, as far as the files that are known tell. -/
def paths (arguments : List String) (t : FileTree) : List String :=
  match Command.ofArguments arguments with
  | .ok (.crawl o) =>
    o.config ::
      match t.readText o.config with
      | .error _ => []
      | .ok text =>
        match Settings.ofText? text with
        | none => []
        | some s =>
          (s.sources.filterMap Source.rulesFile).map (Path.join (Path.parent o.config)) ++
            [(s.override o.overrides).resultsPath]
  | _ => []

end CommandLine

end Prospector
