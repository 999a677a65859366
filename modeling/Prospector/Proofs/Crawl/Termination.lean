import Prospector.Proofs.Crawl.Agenda

/-!
# Crawls come to an end

The frontier of a crawl can grow faster than it shrinks, so it is not what runs out: the quota is.
Each page of a batch uses up one of the pages left, and the end of its visit one move, so what is
left of the quota, counted twice, and the pages being visited together bound the moves that are
left. A batch that is empty is the last one, because then nothing waits or the quota is used up.

None of this depends on the pages of the site, nor on how the crawl has got where it is: there may
be pages on the frontier that were visited already or lie too deep, and the quota may have been
exceeded.

## Main results

* `Scheduler.isFinished_of_nextBatch_eq_nil` : no crawl goes on without handing out a page.
* `Session.movesLeft_perform_lt`, `Session.isFinished_course` : so many moves are enough.
* `Session.length_batches_le` : the quota bounds the batches.
* `Session.run_ends` : a run hands out no more batches than the quota allows, ends, and has then
  visited all pages that wait or as many as it may.
-/

namespace Prospector

namespace Scheduler

theorem size_nextBatch (s : Scheduler) :
    s.nextBatch.2.visited.size = s.visited.size + s.nextBatch.1.length :=
  size_takeBatch ..

/-- A batch with pages in it exceeds no quota. -/
theorem size_nextBatch_le (s : Scheduler) (h : s.nextBatch.1 ≠ []) :
    s.nextBatch.2.visited.size ≤ s.limits.maxPages := by
  have hpos : 0 < s.nextBatch.1.length := List.length_pos_iff.2 h
  have hlast := visited_lt_of_lt_length_batch s.limits s.limits.batchSize s.visited s.frontier
    (s.nextBatch.1.length - 1) (Nat.sub_lt hpos Nat.one_pos)
  rw [size_nextBatch]
  omega

/-- If nothing is handed out, nothing is left to hand out. -/
theorem isFinished_of_nextBatch_eq_nil (s : Scheduler) (h : s.nextBatch.1 = []) :
    s.nextBatch.2.isFinished = true := by
  have hroom : s.limits.batchSize ≠ 0 := by
    unfold Limits.batchSize
    omega
  obtain ⟨hvisited, hend⟩ :=
    takeBatch_eq_nil s.limits s.limits.batchSize s.visited s.frontier hroom h
  rw [isFinished, Bool.or_eq_true]
  rcases hend with hempty | hquota
  · exact .inl (List.isEmpty_iff.2 hempty)
  · refine .inr (decide_eq_true ?_)
    rw [show s.nextBatch.2.visited = s.visited from hvisited]
    exact hquota

end Scheduler

namespace Session

/-! ## Moves of a run -/

section Runs

variable (site : Site) (rule : Rule) (order : Order)

/-- A run that is not finished hands out a batch when nothing is being visited, and takes in an
outcome otherwise. -/
theorem perform_nextMove_cases (s : Session) :
    (s.pending = [] ∧ s.perform site rule (s.nextMove order) = s.dispatch) ∨
      ∃ e, s.pending[s.nextIndex order]? = some e ∧
        s.perform site rule (s.nextMove order) =
          s.takeIn (s.nextIndex order) e
            ((Outcome.ofVisit site rule e.url).without s.scheduler.visited) := by
  by_cases hpending : s.pending = []
  · refine .inl ⟨hpending, ?_⟩
    rw [(nextMove_of_pending_eq_nil order hpending).1, perform_dispatch site rule hpending]
  · obtain ⟨e, hget⟩ := exists_next order hpending
    refine .inr ⟨e, hget, ?_⟩
    rw [(nextMove_of_some hget).1, perform, settle_of_some site rule hget]

/-! ## How many moves are left -/

/-- How many pages the crawl may still visit. -/
def quota (s : Session) : Nat :=
  s.scheduler.limits.maxPages - s.scheduler.visited.size

/-- A bound on the moves that a run still makes. -/
def movesLeft (s : Session) : Nat :=
  if s.isFinished then 0 else 2 * s.quota + s.pending.length + 1

theorem movesLeft_le (s : Session) : s.movesLeft ≤ 2 * s.quota + s.pending.length + 1 := by
  unfold movesLeft
  split
  · exact Nat.zero_le _
  · exact Nat.le_refl _

theorem quota_takeIn (s : Session) (i : Nat) (e : Entry) (o : Outcome) :
    (s.takeIn i e o).quota = s.quota := by
  rw [quota, limits_takeIn, visited_takeIn, quota]

/-- What is handed out is taken from the quota. -/
theorem quota_dispatch (s : Session) (h : s.scheduler.nextBatch.1 ≠ []) :
    s.dispatch.quota + s.scheduler.nextBatch.1.length = s.quota := by
  have hsize := s.scheduler.size_nextBatch
  have hle := s.scheduler.size_nextBatch_le h
  show s.scheduler.limits.maxPages - s.scheduler.nextBatch.2.visited.size + _ =
    s.scheduler.limits.maxPages - s.scheduler.visited.size
  omega

theorem quota_dispatch_of_eq_nil (s : Session) (h : s.scheduler.nextBatch.1 = []) :
    s.dispatch.quota = s.quota := by
  have hsize := s.scheduler.size_nextBatch
  rw [h, List.length_nil, Nat.add_zero] at hsize
  exact congrArg (s.scheduler.limits.maxPages - ·) hsize

/-- A crawl that hands out an empty batch is finished. -/
theorem isFinished_dispatch (s : Session) (h : s.scheduler.nextBatch.1 = []) :
    s.dispatch.isFinished = true := by
  have hpending : s.dispatch.pending = [] := h
  rw [isFinished, hpending]
  exact s.scheduler.isFinished_of_nextBatch_eq_nil h

/-- Every move of a run that is not finished leaves fewer moves. -/
theorem movesLeft_perform_lt {s : Session} (h : s.isFinished = false) :
    (s.perform site rule (s.nextMove order)).movesLeft < s.movesLeft := by
  have hleft : s.movesLeft = 2 * s.quota + s.pending.length + 1 := by
    rw [movesLeft, h, if_neg Bool.false_ne_true]
  rcases perform_nextMove_cases site rule order s with ⟨hpending, hmove⟩ | ⟨e, hget, hmove⟩
  · rw [hmove, hleft]
    by_cases hbatch : s.scheduler.nextBatch.1 = []
    · rw [movesLeft, isFinished_dispatch s hbatch, if_pos rfl]
      exact Nat.succ_pos _
    · -- each page handed out costs the quota two moves and gives back one, the end of its visit
      have hpos : 0 < s.scheduler.nextBatch.1.length := List.length_pos_iff.2 hbatch
      have hquota := quota_dispatch s hbatch
      have hle : s.dispatch.movesLeft ≤
          2 * s.dispatch.quota + s.scheduler.nextBatch.1.length + 1 := movesLeft_le s.dispatch
      omega
  · have hle := movesLeft_le (s.takeIn (s.nextIndex order) e
      ((Outcome.ofVisit site rule e.url).without s.scheduler.visited))
    obtain ⟨hlt, -⟩ := List.getElem?_eq_some_iff.1 hget
    rw [quota_takeIn, pending_takeIn, List.length_eraseIdx_of_lt hlt] at hle
    rw [hmove, hleft]
    omega

/-- A run that has made as many moves as were left is finished. -/
theorem isFinished_course (n : Nat) (s : Session) (h : s.movesLeft ≤ n) :
    (course site rule order n s).isFinished = true := by
  induction n generalizing s with
  | zero =>
      unfold movesLeft at h
      split at h
      · next hfinished => exact hfinished
      · exact absurd h (Nat.not_succ_le_zero _)
  | succ n ih =>
      rw [course]
      split
      · next hfinished => exact hfinished
      · next hfinished =>
        have hlt := movesLeft_perform_lt site rule order (Bool.eq_false_iff.2 hfinished)
        exact ih _ (by omega)

/-! ## Batches of a run -/

/-- The batches that a run forms within so many moves, the first one first. -/
def batches : Nat → Session → List (List Entry)
  | 0, _ => []
  | n + 1, s =>
    if s.isFinished then []
    else
      (if s.pending.isEmpty then [s.scheduler.nextBatch.1] else []) ++
        batches n (s.perform site rule (s.nextMove order))

/-- The batches of a run are all that it hands out. -/
theorem dispatched_course (n : Nat) (s : Session) :
    (course site rule order n s).dispatched =
      s.dispatched ++ (batches site rule order n s).flatten := by
  induction n generalizing s with
  | zero => exact (List.append_nil _).symm
  | succ n ih =>
      rw [course, batches]
      split
      · exact (List.append_nil _).symm
      · rw [ih]
        rcases perform_nextMove_cases site rule order s with ⟨hpending, hmove⟩ | ⟨e, hget, hmove⟩
        · have hdispatched : s.dispatch.dispatched = s.dispatched ++ s.scheduler.nextBatch.1 := by
            show (s.scheduler.nextBatch.1.reverse ++ s.history).reverse = _
            rw [List.reverse_append, List.reverse_reverse, dispatched]
          rw [hmove, hdispatched, hpending]
          simp
        · have hpending : s.pending ≠ [] := List.ne_nil_of_mem (List.mem_of_getElem? hget)
          rw [hmove, dispatched_takeIn]
          simp [hpending]

/-- Every batch with pages in it uses up some of the quota. -/
theorem length_batches_le (n : Nat) (s : Session) :
    ((batches site rule order n s).filter fun b => !b.isEmpty).length ≤ s.quota := by
  induction n generalizing s with
  | zero => exact Nat.zero_le _
  | succ n ih =>
      rw [batches]
      split
      · exact Nat.zero_le _
      · have hrest := ih (s.perform site rule (s.nextMove order))
        rw [List.filter_append, List.length_append]
        rcases perform_nextMove_cases site rule order s with ⟨hpending, hmove⟩ | ⟨e, hget, hmove⟩
        · rw [hmove] at hrest ⊢
          rw [hpending, List.isEmpty_nil, if_pos rfl]
          by_cases hbatch : s.scheduler.nextBatch.1 = []
          · rw [quota_dispatch_of_eq_nil s hbatch] at hrest
            simpa [hbatch] using hrest
          · have hpos : 0 < s.scheduler.nextBatch.1.length := List.length_pos_iff.2 hbatch
            have hquota := quota_dispatch s hbatch
            have hone : ([s.scheduler.nextBatch.1].filter fun b => !b.isEmpty).length ≤ 1 :=
              List.length_filter_le _ _
            omega
        · have hpending : s.pending ≠ [] := List.ne_nil_of_mem (List.mem_of_getElem? hget)
          rw [hmove, quota_takeIn] at hrest
          rw [hmove]
          simpa [hpending] using hrest

end Runs

/-- Whatever happened to a crawl before, and whatever order visits end in, a run of it forms no more
batches with pages in them than pages may still be visited, and it makes no more moves than twice as
many, one for each page being visited and one more, whatever pages the site has. Whenever no page is
handed out, nothing is left to hand out, so that no run goes on without progress. A run ends with an
empty frontier or with exactly as many pages visited as the quota allows. -/
theorem run_ends (site : Site) (rule : Rule) (start : Url) (limits : Limits) (moves : List Move)
    (order : Order) :
    let s := (new start limits).replay site rule moves
    let left := limits.maxPages - s.scheduler.visited.size
    (∀ n, ((batches site rule order n s).filter fun b => !b.isEmpty).length ≤ left) ∧
      (∀ n, (course site rule order n s).dispatched =
        s.dispatched ++ (batches site rule order n s).flatten) ∧
      (∀ n, 2 * left + s.pending.length + 1 ≤ n →
        (course site rule order n s).isFinished = true ∧
          s.run site rule order = course site rule order n s) ∧
      (∀ f : Scheduler, f.nextBatch.1 = [] → f.nextBatch.2.isFinished = true) ∧
      ((s.run site rule order).scheduler.frontier = [] ∨
        (s.run site rule order).scheduler.visited.size = limits.maxPages) := by
  intro s left
  have hreached : Reached site rule start limits s := reached_replay site rule start limits moves
  have hquota : s.quota = left := by rw [quota, hreached.limits_eq]
  have hrun : Reached site rule start limits (s.run site rule order) := hreached.runUntil order _
  refine ⟨fun n => ?_, fun n => dispatched_course site rule order n s, fun n hn => ?_,
    Scheduler.isFinished_of_nextBatch_eq_nil, ?_⟩
  · rw [← hquota]
    exact length_batches_le site rule order n s
  · have hle := movesLeft_le s
    have hfinished := isFinished_course site rule order n s (by omega)
    exact ⟨hfinished, run_eq_course n hfinished⟩
  · refine (frontier_run_eq_nil_or site rule order s).imp_right fun hfull => ?_
    have hge := of_decide_eq_true hfull
    rw [hrun.limits_eq] at hge
    exact Nat.le_antisymm hrun.size_visited_le hge

end Session

end Prospector
