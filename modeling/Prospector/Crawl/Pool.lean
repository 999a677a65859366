import Prospector.Crawl.Session

/-!
# The workers of a crawl

There are as many workers as pages may be visited at the same time, and they stay the same through
all interruptions. A page that was handed out waits until a worker is free, the worker visits it,
and the outcome is taken in when no page of the batch waits any more. An interruption abandons the
pages of the batch, but the workers that were visiting them are free again only some time later.

## Main definitions

* `Pool` : a crawl together with its workers.
* `Pool.Move`, `Pool.perform` : what can happen next.
* `Pool.busy` : how many pages are in flight.
-/

namespace Prospector

/-- How far a page that was handed out has come. -/
inductive Stage where
  /-- No worker has begun to visit the page. -/
  | waiting
  | visiting
  /-- The worker is free again and the outcome waits to be taken in. -/
  | visited
  deriving DecidableEq, Repr, Inhabited

/-- A crawl together with its workers. -/
structure Pool where
  session : Session
  /-- The stages of the pages that the crawl waits for, in the same order. -/
  stages : List Stage := []
  /-- How many workers still visit a page that was abandoned. -/
  strays : Nat := 0
  deriving DecidableEq, Repr, Inhabited

namespace Pool

/-- A crawl that has not begun, all its workers free. -/
def new (start : Url) (limits : Limits) : Pool :=
  { session := .new start limits }

/-- How many workers are visiting a page. -/
def busy (p : Pool) : Nat :=
  p.stages.count .visiting + p.strays

/-- Whether a worker is free. -/
def hasFreeWorker (p : Pool) : Bool :=
  decide (p.busy < p.session.scheduler.limits.batchSize)

/-- Whether the outcome of the page at an index can be taken in. -/
def isReady (p : Pool) (i : Nat) : Bool :=
  p.stages[i]? = some .visited && !p.stages.contains .waiting

/-- What can happen to a crawl and its workers. -/
inductive Move where
  /-- The next batch is handed out. -/
  | dispatch
  /-- A free worker begins to visit the page at an index. -/
  | visit (i : Nat)
  /-- The worker that visits the page at an index is done. -/
  | finish (i : Nat)
  /-- The outcome of the page at an index is taken in. -/
  | settle (i : Nat)
  /-- The visit of the page at an index turns out to have broken down. -/
  | crash (i : Nat)
  | interrupt
  /-- A worker that was visiting an abandoned page is free again. -/
  | leave
  deriving DecidableEq, Repr, Inhabited

/-- The crawl and its workers after something happened. What cannot happen changes nothing. -/
def perform (site : Site) (rule : Rule) (p : Pool) : Move → Pool
  | .dispatch =>
    if p.session.pending.isEmpty then
      let session := p.session.perform site rule .dispatch
      { p with session, stages := session.pending.map fun _ => .waiting }
    else p
  | .visit i =>
    if p.stages[i]? = some .waiting && p.hasFreeWorker then
      { p with stages := p.stages.set i .visiting }
    else p
  | .finish i =>
    if p.stages[i]? = some .visiting then { p with stages := p.stages.set i .visited } else p
  | .settle i =>
    if p.isReady i then
      { p with session := p.session.perform site rule (.settle i), stages := p.stages.eraseIdx i }
    else p
  | .crash i =>
    if p.isReady i then
      { p with session := p.session.perform site rule (.crash i), stages := p.stages.eraseIdx i }
    else p
  | .interrupt =>
    { session := p.session.perform site rule .interrupt, strays := p.busy }
  | .leave => { p with strays := p.strays - 1 }

/-- The crawl and its workers after several things happened one after another. -/
def replay (site : Site) (rule : Rule) (p : Pool) (moves : List Move) : Pool :=
  moves.foldl (perform site rule) p

end Pool

end Prospector
