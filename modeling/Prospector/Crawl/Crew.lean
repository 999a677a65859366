import Prospector.Crawl.Session

/-!
# Workers that look links up

A worker that has fetched a page looks the links of the page up, one after another, in the set of
visited pages, and passes on those that are not in it. The set is shared: between two links the
outcomes of other visits may be taken in, and whoever else holds the set may mark pages visited.

Which links are passed on is a parameter, so that workers that look nothing up can be compared with
those that do.

## Main definitions

* `Sieve` : which links a worker passes on; `Sieve.unvisited` is the one of a crawl.
* `Crew` : a crawl together with how far its workers have come.
* `Crew.Move`, `Crew.perform` : what can happen next, one link at a time.
-/

namespace Prospector

/-- Which links a worker passes on, given the pages visited when it looks. -/
abbrev Sieve := VisitedSet → String → Bool

/-- Links to pages that were visited are not passed on. -/
def Sieve.unvisited : Sieve :=
  fun visited url => !visited.contains url

/-- Every link is passed on. -/
def Sieve.everything : Sieve :=
  fun _ _ => true

/-- How far a worker has come with the links of its page. -/
structure Worker where
  /-- The links that the worker has not looked at, the next one first. -/
  ahead : List String
  /-- The links that it passes on, the first one first. -/
  kept : List String := []
  deriving DecidableEq, Repr, Inhabited

namespace Worker

/-- A worker that has just fetched a page. -/
def start (site : Site) (rule : Rule) (e : Entry) : Worker :=
  { ahead := (Outcome.ofVisit site rule e.url).links }

/-- The worker looks at its next link. -/
def look (sieve : Sieve) (visited : VisitedSet) (w : Worker) : Worker :=
  match w.ahead with
  | [] => w
  | url :: ahead => { ahead, kept := if sieve visited url then w.kept ++ [url] else w.kept }

/-- The outcome of the visit of a page with the links that the worker passes on. -/
def outcome (site : Site) (rule : Rule) (w : Worker) (e : Entry) : Outcome :=
  { Outcome.ofVisit site rule e.url with links := w.kept }

end Worker

/-- A crawl together with how far its workers have come. -/
structure Crew where
  session : Session
  /-- The workers that visit the pages that the crawl waits for, in the same order. -/
  workers : List Worker
  deriving DecidableEq, Repr, Inhabited

namespace Crew

/-- A crawl whose workers have not looked at any link. -/
def ofSession (site : Site) (rule : Rule) (s : Session) : Crew :=
  { session := s, workers := s.pending.map (.start site rule) }

/-- What can happen to a crawl and its workers. -/
inductive Move where
  /-- The next batch is handed out. -/
  | dispatch
  /-- The worker at an index looks at its next link. -/
  | look (i : Nat)
  /-- The outcome of the worker at an index is taken in, all its links having been looked at. -/
  | settle (i : Nat)
  /-- The visit of the worker at an index breaks down. -/
  | crash (i : Nat)
  | interrupt
  /-- Somebody else marks a page visited. -/
  | mark (url : String)
  deriving DecidableEq, Repr, Inhabited

/-- The crawl and its workers after something happened. What cannot happen changes nothing. -/
def perform (site : Site) (rule : Rule) (sieve : Sieve) (c : Crew) : Move → Crew
  | .dispatch =>
    if c.session.pending.isEmpty then ofSession site rule c.session.dispatch else c
  | .look i =>
    match c.workers[i]? with
    | some w =>
      { c with workers := c.workers.set i (w.look sieve c.session.scheduler.visited) }
    | none => c
  | .settle i =>
    match c.workers[i]? with
    | some w =>
      if w.ahead.isEmpty then
        { session := c.session.settleWith (w.outcome site rule) i
          workers := c.workers.eraseIdx i }
      else c
    | none => c
  | .crash i =>
    { session := c.session.settleWith (fun _ => .breakdown) i, workers := c.workers.eraseIdx i }
  | .interrupt => { session := c.session.interrupt, workers := [] }
  | .mark url =>
    { c with
      session := { c.session with scheduler := (c.session.scheduler.visit url).2 } }

/-- The crawl and its workers after several things happened one after another. -/
def replay (site : Site) (rule : Rule) (sieve : Sieve) (c : Crew) (moves : List Move) : Crew :=
  moves.foldl (perform site rule sieve) c

end Crew

end Prospector
