import Prospector.Crawl.Finding
import Prospector.Crawl.Outcome
import Prospector.Crawl.Statistics

/-!
# Crawl sessions

A crawl goes on in batches. The pages of a batch are visited at the same time; their visits end in
any order, and the next batch is handed out when all of them have ended. A crawl may be interrupted
at any point: the pages that are being visited then are abandoned, and the crawl can go on without
them.

## Main definitions

* `Session` : a crawl at one point of its course.
* `Session.Move`, `Session.perform` : what can happen next.
* `Session.run`, `Session.runUntil` : a crawl up to its end, or up to an interruption. The order in
  which visits end is a parameter.
* `Session.report` : what a crawl has brought so far.
-/

namespace Prospector

/-- A crawl at one point of its course. -/
structure Session where
  start : String
  scheduler : Scheduler
  findings : Findings := {}
  tally : Tally := {}
  linksEnqueued : Nat := 0
  /-- The pages that are being visited, in the order in which they were handed out. -/
  pending : List Entry := []
  /-- Every page that was handed out, the last one first. -/
  history : List Entry := []
  deriving DecidableEq, Repr, Inhabited

namespace Session

/-- A crawl that has not begun. -/
def new (start : Url) (limits : Limits) : Session :=
  { start := start.written, scheduler := .new start.written limits }

/-- A crawl that starts at the address that a text writes. -/
def ofText (start : String) (limits : Limits) : Except Url.Fault Session := do
  .ok (new (← Url.ofText start) limits)

/-- Every page that was handed out, the first one first. -/
def dispatched (s : Session) : List Entry :=
  s.history.reverse

/-- Whether nothing is left to do. -/
def isFinished (s : Session) : Bool :=
  s.pending.isEmpty && s.scheduler.isFinished

/-! ## What can happen -/

/-- Hands out the next batch. -/
def dispatch (s : Session) : Session :=
  let (batch, scheduler) := s.scheduler.nextBatch
  { s with scheduler, pending := batch, history := batch.reverse ++ s.history }

/-- Takes in the outcome of the visit of a page. -/
def record (s : Session) (e : Entry) (o : Outcome) : Session :=
  let (added, scheduler) := s.scheduler.enqueueLinks e.depth o.links
  { s with
    scheduler
    findings :=
      match o.classification with
      | some c => s.findings.add e.url (.ofClassification c)
      | none => s.findings
    tally := s.tally.record o.state
    linksEnqueued := s.linksEnqueued + added }

/-- The visit of one of the pages that are being visited ends with an outcome. -/
def settleWith (outcome : Entry → Outcome) (i : Nat) (s : Session) : Session :=
  match s.pending[i]? with
  | some e => { s with pending := s.pending.eraseIdx i }.record e (outcome e)
  | none => s

/-- The visit of one of the pages that are being visited ends. The links that it brings leave out
the pages that were visited by then. -/
def settle (site : Site) (rule : Rule) (i : Nat) (s : Session) : Session :=
  s.settleWith (fun e => (Outcome.ofVisit site rule e.url).without s.scheduler.visited) i

/-- Abandons the pages that are being visited. They stay visited. -/
def interrupt (s : Session) : Session :=
  { s with pending := [] }

/-- What can happen to a crawl. -/
inductive Move where
  /-- The next batch is handed out. -/
  | dispatch
  /-- The visit of the page at an index among those that are being visited ends. -/
  | settle (i : Nat)
  /-- The visit of the page at an index among those that are being visited breaks down. -/
  | crash (i : Nat)
  | interrupt
  deriving DecidableEq, Repr, Inhabited

/-- The crawl after something happened to it. While pages are being visited, no batch is handed
out. -/
def perform (site : Site) (rule : Rule) (s : Session) : Move → Session
  | .dispatch => if s.pending.isEmpty then s.dispatch else s
  | .settle i => s.settle site rule i
  | .crash i => s.settleWith (fun _ => .breakdown) i
  | .interrupt => s.interrupt

/-- The crawl after several things happened to it one after another. -/
def replay (site : Site) (rule : Rule) (s : Session) (moves : List Move) : Session :=
  moves.foldl (perform site rule) s

/-! ## Orders of visits -/

/-- An order in which visits end: the index of the one among the pages that are being visited whose
visit ends next. It counts modulo their number. -/
abbrev Order := Session → Nat

/-- Visits end in the order in which they began. -/
def inTurn : Order :=
  fun _ => 0

/-- The index of the page whose visit ends next. -/
def nextIndex (order : Order) (s : Session) : Nat :=
  order s % s.pending.length

/-- The page whose visit ends next. -/
def next? (order : Order) (s : Session) : Option Entry :=
  s.pending[s.nextIndex order]?

/-- What happens next in a crawl that is not interrupted. -/
def nextMove (order : Order) (s : Session) : Move :=
  if s.pending.isEmpty then .dispatch else .settle (s.nextIndex order)

/-! ## Progress

Each move of a crawl that is not interrupted uses up some of the quota, ends a visit or shortens the
frontier, in this order of importance. -/

/-- How much is left to do. -/
def remaining (s : Session) : Nat × Nat × Nat :=
  (s.scheduler.limits.maxPages - s.scheduler.visited.size, s.pending.length,
    s.scheduler.frontier.length)

theorem remaining_record (s : Session) (e : Entry) (o : Outcome) :
    (s.record e o).remaining.1 = s.remaining.1 ∧
      (s.record e o).remaining.2.1 = s.remaining.2.1 := by
  simp [record, remaining]

theorem remaining_settle (site : Site) (rule : Rule) (s : Session) (i : Nat)
    (h : i < s.pending.length) :
    (s.settle site rule i).remaining.1 = s.remaining.1 ∧
      (s.settle site rule i).remaining.2.1 + 1 = s.remaining.2.1 := by
  simp only [settle, settleWith, List.getElem?_eq_getElem h]
  refine ⟨(remaining_record _ _ _).1, ?_⟩
  rw [(remaining_record _ _ _).2]
  simp only [remaining, List.length_eraseIdx, h, ↓reduceIte]
  omega

theorem remaining_dispatch (s : Session) (hp : s.pending = [])
    (h : s.scheduler.isFinished = false) :
    s.dispatch.remaining.1 < s.remaining.1 ∨
      (s.dispatch.remaining.1 = s.remaining.1 ∧ s.dispatch.remaining.2.1 = s.remaining.2.1 ∧
        s.dispatch.remaining.2.2 < s.remaining.2.2) := by
  have hb := s.scheduler.nextBatch_progress h
  simp only [dispatch, remaining, hp, List.length_nil]
  rcases hb with hb | ⟨he, hv, hf⟩
  · exact .inl hb
  · exact .inr ⟨hv, by simp [he], hf⟩

theorem remaining_perform_nextMove (site : Site) (rule : Rule) (order : Order) (s : Session)
    (h : s.isFinished = false) :
    Prod.Lex (· < ·) (Prod.Lex (· < ·) (· < ·))
      (s.perform site rule (s.nextMove order)).remaining s.remaining := by
  rw [Prod.lex_def, Prod.lex_def]
  unfold nextMove
  split
  · rename_i hp
    have hp' : s.pending = [] := List.isEmpty_iff.1 hp
    simp only [perform, hp, ↓reduceIte]
    exact (s.remaining_dispatch hp' (by simpa [isFinished, hp] using h)).imp_right
      fun ⟨h₁, h₂, h₃⟩ => ⟨h₁, .inr ⟨h₂, h₃⟩⟩
  · rename_i hp
    have hl : 0 < s.pending.length := by
      simpa [List.length_pos_iff] using hp
    have hs := s.remaining_settle site rule (s.nextIndex order) (Nat.mod_lt _ hl)
    exact .inr ⟨hs.1, .inl (by simp only [perform]; omega)⟩

/-! ## Runs -/

/-- Goes on until the crawl is finished or is interrupted, which `stop` decides: whether it was
interrupted, and the crawl then. -/
def runUntil (site : Site) (rule : Rule) (order : Order) (stop : Session → Bool) (s : Session) :
    Bool × Session :=
  if s.isFinished then (false, s)
  else if stop s then (true, s.interrupt)
  else runUntil site rule order stop (s.perform site rule (s.nextMove order))
termination_by s.remaining
decreasing_by exact remaining_perform_nextMove _ _ _ _ (by simp_all)

/-- Goes on until the crawl is finished. -/
def run (site : Site) (rule : Rule) (order : Order) (s : Session) : Session :=
  (runUntil site rule order (fun _ => false) s).2

/-! ## Reports -/

/-- The counters of a crawl; the time spent is not among them. -/
def statistics (s : Session) : Statistics :=
  { visited := s.scheduler.visited.size
    classified := s.findings.size
    linksEnqueued := s.linksEnqueued
    tally := s.tally }

end Session

/-- What a crawl has brought. -/
structure Report where
  start : String
  findings : Findings
  statistics : Statistics
  deriving DecidableEq, Repr, Inhabited

/-- What a crawl has brought so far. -/
def Session.report (s : Session) : Report :=
  { start := s.start, findings := s.findings, statistics := s.statistics }

end Prospector
