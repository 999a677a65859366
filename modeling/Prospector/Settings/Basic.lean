import Prospector.Crawl.Scheduler
import Prospector.Rule.Basic
import Prospector.Text.Digit

/-!
# Settings

What a run is told: the bounds and the pace of its crawls, who it says it is, where its results go,
and the sources to crawl.
-/

namespace Prospector

/-- The bounds and the pace of a crawl. -/
structure Pace where
  maxPages : Nat := 777777
  maxDepth : Nat := 10
  maxWorkers : Nat := 10
  timeoutSeconds : Nat := 10
  delayMilliseconds : Nat := 1000
  /-- Whether malformed rules are refused. -/
  strictRules : Bool := false
  deriving DecidableEq, Repr, Inhabited

/-- The bounds of a crawl. -/
def Pace.limits (p : Pace) : Limits :=
  { maxPages := p.maxPages, maxDepth := p.maxDepth, maxWorkers := p.maxWorkers }

/-- Who a run says it is. -/
structure Identity where
  name : String
  version : String
  url : String
  email : String
  deriving DecidableEq, Repr, Inhabited

/-- What is sent with every request. -/
def Identity.header (i : Identity) : String :=
  i.name ++ "/" ++ i.version ++ " (+" ++ i.url ++ "; " ++ i.email ++ ")"

/-- Whether a text may be sent as a header: no control character but the tab. -/
def isHeader (s : String) : Bool :=
  s.toList.all fun c => c == '\t' || (0x20 ≤ c.toNat && c.toNat != 0x7F)

/-- A site to crawl and the rule for its pages. -/
structure Source where
  name : String
  rootUrl : String
  rule : Option Rule := none
  /-- The file that the rule stands in, beside the settings. -/
  rulesFile : Option String := none
  deriving Repr, Inhabited

/-- Where results go unless it is said otherwise. -/
def defaultResultsPath : String := "product_links.json"

/-- All that a run is told. -/
structure Settings where
  pace : Pace := {}
  identity : Identity
  resultsPath : String := defaultResultsPath
  sources : List Source := []
  deriving Repr, Inhabited

/-- What replaces settings for one run. -/
structure Overrides where
  maxPages : Option Nat := none
  maxDepth : Option Nat := none
  maxWorkers : Option Nat := none
  timeoutSeconds : Option Nat := none
  strictRules : Option Bool := none
  resultsPath : Option String := none
  deriving DecidableEq, Repr, Inhabited

/-- Settings with some of them replaced. -/
def Settings.override (s : Settings) (o : Overrides) : Settings :=
  { s with
    pace := { s.pace with
      maxPages := o.maxPages.getD s.pace.maxPages
      maxDepth := o.maxDepth.getD s.pace.maxDepth
      maxWorkers := o.maxWorkers.getD s.pace.maxWorkers
      timeoutSeconds := o.timeoutSeconds.getD s.pace.timeoutSeconds
      strictRules := o.strictRules.getD s.pace.strictRules }
    resultsPath := o.resultsPath.getD s.resultsPath }

end Prospector
