import Prospector.Crawl.PageState
import Prospector.Decimal.Fixed

/-!
# Statistics of a crawl

The counters of a crawl and their summary as text. Rates and shares are double-precision numbers:
each quotient and product is rounded before the result is written.
-/

namespace Prospector

/-- The counters of one crawl. -/
structure Statistics where
  /-- Pages handed to a worker, those abandoned by an interruption included. -/
  visited : Nat := 0
  /-- Pages that a rule matched. -/
  classified : Nat := 0
  /-- Links that were new when they were found. -/
  linksEnqueued : Nat := 0
  tally : Tally := {}
  /-- The time spent, in nanoseconds. -/
  elapsed : Nat := 0
  deriving DecidableEq, Repr, Inhabited

namespace Statistics

/-- The nanoseconds of a second. -/
def second : Nat := 1000000000

/-- The time spent in seconds: whole seconds plus the rounded rest. -/
def seconds (s : Statistics) : Binary64 :=
  (Binary64.ofNat (s.elapsed / second)).add
    ((Binary64.ofNat (s.elapsed % second)).div (.ofNat second))

/-- Pages visited in a second; none if no time was spent. -/
def pagesPerSecond (s : Statistics) : Binary64 :=
  if s.elapsed = 0 then .ofNat 0 else (Binary64.ofNat s.visited).div s.seconds

/-- The share of `part` in `whole`, in percent. -/
def percentage (part whole : Nat) : Binary64 :=
  ((Binary64.ofNat part).div (.ofNat whole)).mul (.ofNat 100)

/-- The share of the completed pages that failed, in percent. -/
def errorRate (s : Statistics) : Binary64 :=
  if s.tally.total = 0 then .ofNat 0 else percentage s.tally.errors s.tally.total

/-- The line for the pages of one state, if there are any. -/
def stateLine? (s : Statistics) (state : PageState) : Option String :=
  let count := s.tally.count state
  if count = 0 then none
  else
    some s!"  {state.name}: {count} ({Decimal.fixed (percentage count s.tally.total) 1}%)\n"

/-- The section on the states of pages, if any page is complete. -/
def stateSection (s : Statistics) : String :=
  if s.tally.total = 0 then ""
  else "Pages by State:\n" ++ String.join (PageState.all.filterMap s.stateLine?) ++ "\n"

/-- The line on the time spent. -/
def elapsedLine (s : Statistics) : String :=
  s!"  Elapsed: {Decimal.fixed s.seconds 1}s ({Decimal.fixed s.pagesPerSecond 2} pages/sec)\n"

/-- The summary of the crawl of a source. -/
def summary (s : Statistics) (source : String) : String :=
  s!"=== Crawl Statistics: {source} ===\n\n" ++
  "Overview:\n" ++
  s!"  Pages visited: {s.visited}\n" ++
  s!"  Products found: {s.classified}\n" ++
  s!"  Links queued: {s.linksEnqueued}\n" ++
  s.elapsedLine ++ "\n" ++
  s.stateSection ++
  s!"Error Rate: {Decimal.fixed s.errorRate 1}% ({s.tally.errors} / {s.tally.total} pages failed)\n"

end Statistics

end Prospector
