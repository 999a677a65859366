/-!
# The crawl frontier

The pages that wait to be visited, first come first served, and the bounds of a crawl: how many
pages it may visit, how many links away from its start they may lie, and how many are visited at
the same time. A page is handed out at most once, because handing it out marks it visited.
-/

namespace Prospector

/-- A page to visit and the number of links that lead to it from the start of the crawl. This number
has no bound; a counter of 32 bits would count the same as long as no chain of 2^32 - 1 links is
followed, and what it does then is left out. -/
structure Entry where
  url : String
  depth : Nat
  deriving DecidableEq, Repr, Inhabited

/-- The bounds of a crawl, natural numbers of any size. -/
structure Limits where
  maxPages : Nat
  maxDepth : Nat
  maxWorkers : Nat
  deriving DecidableEq, Repr, Inhabited

/-- How many pages may be visited at the same time; always at least one. -/
def Limits.batchSize (l : Limits) : Nat :=
  max l.maxWorkers 1

/-- The pages that were visited, the last one first. -/
structure VisitedSet where
  urls : List String := []
  deriving DecidableEq, Repr, Inhabited

namespace VisitedSet

/-- Whether a page was visited. -/
def contains (v : VisitedSet) (url : String) : Bool :=
  v.urls.contains url

/-- How many pages were visited. -/
def size (v : VisitedSet) : Nat :=
  v.urls.length

/-- Whether no page was visited. -/
def isEmpty (v : VisitedSet) : Bool :=
  v.urls.isEmpty

/-- Marks a page visited and says whether it was not so before. -/
def visit (v : VisitedSet) (url : String) : Bool × VisitedSet :=
  if v.contains url then (false, v) else (true, ⟨url :: v.urls⟩)

end VisitedSet

/-- The frontier of a crawl. -/
structure Scheduler where
  limits : Limits
  /-- The pages that wait, the next one first. -/
  frontier : List Entry
  /-- Every page that ever waited, the last one first. -/
  queued : List String
  visited : VisitedSet := {}
  deriving DecidableEq, Repr, Inhabited

namespace Scheduler

/-- The frontier of a crawl that has not begun: its start alone. -/
def new (start : String) (limits : Limits) : Scheduler :=
  { limits, frontier := [⟨start, 0⟩], queued := [start] }

/-- Whether the crawl has visited as many pages as it may. -/
def quotaReached (s : Scheduler) : Bool :=
  decide (s.limits.maxPages ≤ s.visited.size)

/-- Whether nothing is left to hand out. -/
def isFinished (s : Scheduler) : Bool :=
  s.frontier.isEmpty || s.quotaReached

/-! ## Batches -/

/-- What is taken off a frontier: the batch, the pages visited then, and what keeps waiting. Pages
that lie too deep or were visited already are dropped on the way. -/
def takeBatch (limits : Limits) (room : Nat) (visited : VisitedSet) :
    List Entry → List Entry × VisitedSet × List Entry
  | [] => ([], visited, [])
  | e :: rest =>
    if room = 0 || decide (limits.maxPages ≤ visited.size) then ([], visited, e :: rest)
    else if limits.maxDepth < e.depth || visited.contains e.url then
      takeBatch limits room visited rest
    else
      let (batch, seen, waiting) := takeBatch limits (room - 1) ⟨e.url :: visited.urls⟩ rest
      (e :: batch, seen, waiting)

/-- Takes the next batch: as many pages as are visited at the same time, while the quota lasts. All
of them are marked visited. -/
def nextBatch (s : Scheduler) : List Entry × Scheduler :=
  let (batch, visited, frontier) := takeBatch s.limits s.limits.batchSize s.visited s.frontier
  (batch, { s with frontier, visited })

/-! ## Links -/

/-- Puts a page at the end of the frontier unless it was visited or ever waited before. -/
def enqueue (s : Scheduler) (depth : Nat) (url : String) : Scheduler :=
  if s.visited.contains url || s.queued.contains url then s
  else { s with frontier := s.frontier ++ [⟨url, depth⟩], queued := url :: s.queued }

/-- Puts the links of a page at the end of the frontier, unless they lie too deep: how many of them
were new, and the frontier then. -/
def enqueueLinks (s : Scheduler) (parentDepth : Nat) (links : List String) : Nat × Scheduler :=
  if s.limits.maxDepth < parentDepth + 1 then (0, s)
  else
    let after := links.foldl (fun t url => t.enqueue (parentDepth + 1) url) s
    (after.queued.length - s.queued.length, after)

/-- Marks a page visited from outside and says whether it was not so before. -/
def visit (s : Scheduler) (url : String) : Bool × Scheduler :=
  let (fresh, visited) := s.visited.visit url
  (fresh, { s with visited })

@[simp] theorem limits_enqueue (s : Scheduler) (depth : Nat) (url : String) :
    (s.enqueue depth url).limits = s.limits := by
  unfold enqueue; split <;> rfl

@[simp] theorem visited_enqueue (s : Scheduler) (depth : Nat) (url : String) :
    (s.enqueue depth url).visited = s.visited := by
  unfold enqueue; split <;> rfl

/-! ## What the operations keep -/

@[simp] theorem limits_foldl_enqueue (depth : Nat) (links : List String) (s : Scheduler) :
    (links.foldl (fun t url => t.enqueue depth url) s).limits = s.limits := by
  induction links generalizing s with
  | nil => rfl
  | cons url links ih => simp [ih]

@[simp] theorem visited_foldl_enqueue (depth : Nat) (links : List String) (s : Scheduler) :
    (links.foldl (fun t url => t.enqueue depth url) s).visited = s.visited := by
  induction links generalizing s with
  | nil => rfl
  | cons url links ih => simp [ih]

@[simp] theorem limits_enqueueLinks (s : Scheduler) (depth : Nat) (links : List String) :
    (s.enqueueLinks depth links).2.limits = s.limits := by
  unfold enqueueLinks; split <;> simp

@[simp] theorem visited_enqueueLinks (s : Scheduler) (depth : Nat) (links : List String) :
    (s.enqueueLinks depth links).2.visited = s.visited := by
  unfold enqueueLinks; split <;> simp

theorem size_takeBatch (limits : Limits) (room : Nat) (visited : VisitedSet)
    (frontier : List Entry) :
    (takeBatch limits room visited frontier).2.1.size =
      visited.size + (takeBatch limits room visited frontier).1.length := by
  fun_induction takeBatch limits room visited frontier with
  | case1 => simp
  | case2 => simp
  | case3 room visited e rest _ _ ih => exact ih
  | case4 room visited e rest _ _ batch seen waiting heq ih =>
    rw [heq] at ih
    simp only [VisitedSet.size, List.length_cons] at ih ⊢
    omega

theorem length_takeBatch_le (limits : Limits) (room : Nat) (visited : VisitedSet)
    (frontier : List Entry) :
    (takeBatch limits room visited frontier).2.2.length ≤ frontier.length := by
  fun_induction takeBatch limits room visited frontier with
  | case1 => simp
  | case2 => simp
  | case3 room visited e rest _ _ ih => exact Nat.le_succ_of_le ih
  | case4 room visited e rest _ _ batch seen waiting heq ih =>
    rw [heq] at ih
    exact Nat.le_succ_of_le ih

theorem length_takeBatch_lt (limits : Limits) (room : Nat) (visited : VisitedSet) (e : Entry)
    (rest : List Entry) (hr : room ≠ 0) (hq : visited.size < limits.maxPages) :
    (takeBatch limits room visited (e :: rest)).2.2.length < (e :: rest).length := by
  have hq' : ¬ limits.maxPages ≤ visited.size := by omega
  unfold takeBatch
  simp only [hr, hq', decide_false, Bool.or_self, Bool.false_eq_true, ↓reduceIte]
  split
  · exact Nat.lt_succ_of_le (length_takeBatch_le ..)
  · exact Nat.lt_succ_of_le (length_takeBatch_le ..)

/-- A batch uses up some of the quota, or it is empty and shortens the frontier. -/
theorem nextBatch_progress (s : Scheduler) (h : s.isFinished = false) :
    s.nextBatch.2.limits.maxPages - s.nextBatch.2.visited.size <
        s.limits.maxPages - s.visited.size ∨
      (s.nextBatch.1 = [] ∧
        s.nextBatch.2.limits.maxPages - s.nextBatch.2.visited.size =
          s.limits.maxPages - s.visited.size ∧
        s.nextBatch.2.frontier.length < s.frontier.length) := by
  obtain ⟨hf, hq⟩ : s.frontier.isEmpty = false ∧ s.quotaReached = false := by
    simpa [isFinished] using h
  have hq : s.visited.size < s.limits.maxPages := by simpa [quotaReached] using hq
  have hr : s.limits.batchSize ≠ 0 := by unfold Limits.batchSize; omega
  have hs := size_takeBatch s.limits s.limits.batchSize s.visited s.frontier
  cases hfr : s.frontier with
  | nil => simp [hfr] at hf
  | cons e rest =>
    have hl := length_takeBatch_lt s.limits s.limits.batchSize s.visited e rest hr hq
    rw [hfr] at hs
    simp only [nextBatch, hfr]
    cases hb : (takeBatch s.limits s.limits.batchSize s.visited (e :: rest)).1 with
    | nil =>
      rw [hb, List.length_nil, Nat.add_zero] at hs
      exact .inr ⟨rfl, by rw [hs], hl⟩
    | cons _ _ =>
      rw [hb, List.length_cons] at hs
      exact .inl (by rw [hs]; omega)

end Scheduler

end Prospector
