import Prospector.Catalog.Store
import Prospector.Crawl.Session
import Prospector.Settings.Basic
import Prospector.Web.Fetch

/-!
# Harvests

The crawls of sources, one after the other, each with the products that it found merged into the
results file.

## Main definitions

* `Source.crawl` : the crawl of one source.
* `Source.harvest` : the crawl of one source and what was saved of it.
* `Settings.harvest` : the harvests of several sources.
-/

namespace Prospector

/-! ## Crawls -/

/-- Why a source cannot be crawled at all. -/
inductive CrawlFault where
  | noRule (source : String)
  | start (fault : Url.Fault)
  deriving Repr, Inhabited

/-- What is said about a source that cannot be crawled. -/
def CrawlFault.message : CrawlFault → String
  | .noRule source => "No detection rules configured for source '" ++ source ++ "'"
  | .start fault => "URL parse error: " ++ fault.message

namespace Session

/-- Whether the crawl waits for a page whose server never answers. -/
def awaitsInVain (w : Web) (order : Order) (s : Session) : Bool :=
  match s.next? order with
  | some e => w.isSilent e.url
  | none => false

/-- The addresses that servers were asked for, in the order in which their pages were handed out. -/
def requests (w : Web) (s : Session) : List String :=
  s.dispatched.flatMap fun e => (w.fetch e.url).requests

end Session

namespace Source

/-- The rule of a source and its crawl before it begins. -/
def session (pace : Pace) (s : Source) : Except CrawlFault (Rule × Session) :=
  match s.rule with
  | none => .error (.noRule s.name)
  | some rule =>
    match Session.ofText s.rootUrl pace.limits with
    | .error fault => .error (.start fault)
    | .ok session => .ok (rule, session)

/-- Crawls a source. The crawl is interrupted when it waits in vain: whether it was, and the crawl
then. -/
def crawl (w : Web) (order : Session.Order) (pace : Pace) (s : Source) :
    Except CrawlFault (Bool × Session) := do
  let (rule, session) ← s.session pace
  .ok (session.runUntil w.site rule order (Session.awaitsInVain w order))

end Source

/-! ## Harvests -/

/-- What a crawled source has brought. -/
structure Gain where
  report : Report
  interrupted : Bool
  /-- The number of products in the results file. -/
  saved : Except StoreFault Nat

/-- What has come of a source. -/
structure Harvest where
  source : String
  requests : List String := []
  gain : Except CrawlFault Gain

/-- Crawls a source and merges its products into a results file: what has come of it, and the files
then. -/
def Source.harvest (w : Web) (order : Session.Order) (pace : Pace) (path : String) (t : FileTree)
    (s : Source) : Harvest × FileTree :=
  match s.crawl w order pace with
  | .error fault => ({ source := s.name, gain := .error fault }, t)
  | .ok (interrupted, session) =>
    let (saved, t) := Catalog.saveFindings t path s.name session.findings
    ({ source := s.name
       requests := session.requests w
       gain := .ok { report := session.report, interrupted, saved } }, t)

/-- Crawls sources one after the other, up to one whose harvest is not good enough to go on. In each
crawl visits end in an order of its own. -/
def Settings.harvest (w : Web) (order : Source → Session.Order) (goesOn : Harvest → Bool)
    (s : Settings) (t : FileTree) : List Source → List Harvest × FileTree
  | [] => ([], t)
  | source :: rest =>
    let (h, t) := source.harvest w (order source) s.pace s.resultsPath t
    if goesOn h then
      let (later, t) := Settings.harvest w order goesOn s t rest
      (h :: later, t)
    else ([h], t)

end Prospector
