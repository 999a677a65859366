import Prospector.Crawl.Session
import Prospector.Proofs.Crawl.Frontier

/-!
# The agenda of a crawl

The agenda of a crawl is every page that ever waited, in the order in which the pages were put on
the frontier. The pages handed out are a first part of it and the frontier is the rest, so handing
out a batch leaves the agenda as it is, and taking in an outcome puts the new links at its end.
That no page is on it twice is what all other facts about crawls rest on.

`Session.Reached` is the relation to argue by: a crawl gets from its start to any of its states by
handing out a batch when nothing is being visited, by taking in the outcome of one of the pages
being visited, and by abandoning these.

## Main results

* `Session.reached_replay`, `Session.Reached.runUntil` : whatever happens to a crawl, and whatever
  order visits end in, its states are among those reached.
* `Session.dispatch_eq`, `Session.scheduler_takeIn` : the two moves as equations.
* `Session.Reached.orderly` : what the agenda, the visited set and the queued set have to do with
  one another in every state reached.
-/

namespace Prospector.Session

/-- Every page that ever waited, the first one first. -/
def agenda (s : Session) : List Entry :=
  s.dispatched ++ s.scheduler.frontier

theorem mem_drop_of_getElem? {agenda : List Entry} {i : Nat} {e : Entry} (h : agenda[i]? = some e) :
    e ∈ agenda.drop i := by
  obtain ⟨hlt, rfl⟩ := List.getElem?_eq_some_iff.1 h
  exact List.mem_drop_iff_getElem.2 ⟨0, by omega, rfl⟩

/-- The crawl after the visit of the pending page at an index ended with an outcome. -/
def takeIn (s : Session) (i : Nat) (e : Entry) (o : Outcome) : Session :=
  ({ s with pending := s.pending.eraseIdx i } : Session).record e o

/-! ## States of crawls -/

/-- What the visit of a page can bring: its outcome, the links to pages visited by then left out, or
nothing if the visit breaks down. -/
inductive Brings (site : Site) (rule : Rule) (visited : VisitedSet) (url : String) : Outcome → Prop
  | visit : Brings site rule visited url ((Outcome.ofVisit site rule url).without visited)
  | breakdown : Brings site rule visited url .breakdown

/-- The states that a crawl of a site can get to. -/
inductive Reached (site : Site) (rule : Rule) (start : Url) (limits : Limits) : Session → Prop
  | new : Reached site rule start limits (new start limits)
  | dispatch {s : Session} : Reached site rule start limits s → s.pending = [] →
      Reached site rule start limits s.dispatch
  | takeIn {s : Session} {i : Nat} {e : Entry} {o : Outcome} :
      Reached site rule start limits s → s.pending[i]? = some e →
      Brings site rule s.scheduler.visited e.url o →
      Reached site rule start limits (s.takeIn i e o)
  | interrupt {s : Session} : Reached site rule start limits s →
      Reached site rule start limits s.interrupt

theorem settleWith_of_some (outcome : Entry → Outcome) {s : Session} {i : Nat} {e : Entry}
    (h : s.pending[i]? = some e) : s.settleWith outcome i = s.takeIn i e (outcome e) := by
  simp only [settleWith, h, takeIn]

theorem settleWith_of_none (outcome : Entry → Outcome) {s : Session} {i : Nat}
    (h : s.pending[i]? = none) : s.settleWith outcome i = s := by
  simp only [settleWith, h]

section Reached

variable {site : Site} {rule : Rule} {start : Url} {limits : Limits}

theorem Reached.settle {s : Session} (h : Reached site rule start limits s) (i : Nat) :
    Reached site rule start limits (s.settle site rule i) := by
  unfold Session.settle
  cases hpending : s.pending[i]? with
  | none =>
      rw [settleWith_of_none _ hpending]
      exact h
  | some e =>
      rw [settleWith_of_some _ hpending]
      exact h.takeIn hpending .visit

theorem Reached.crash {s : Session} (h : Reached site rule start limits s) (i : Nat) :
    Reached site rule start limits (s.settleWith (fun _ => .breakdown) i) := by
  cases hpending : s.pending[i]? with
  | none =>
      rw [settleWith_of_none _ hpending]
      exact h
  | some e =>
      rw [settleWith_of_some _ hpending]
      exact h.takeIn hpending .breakdown

/-- Whatever happens to a crawl leads to a state reached. -/
theorem Reached.perform {s : Session} (h : Reached site rule start limits s) (m : Move) :
    Reached site rule start limits (s.perform site rule m) := by
  cases m with
  | dispatch =>
      show Reached site rule start limits (if s.pending.isEmpty then s.dispatch else s)
      split
      · next hpending => exact h.dispatch (List.isEmpty_iff.1 hpending)
      · exact h
  | settle i => exact h.settle i
  | crash i => exact h.crash i
  | interrupt => exact h.interrupt

theorem Reached.replay {s : Session} (h : Reached site rule start limits s) (moves : List Move) :
    Reached site rule start limits (s.replay site rule moves) := by
  induction moves generalizing s with
  | nil => exact h
  | cons m moves ih => exact ih (h.perform m)

theorem reached_replay (site : Site) (rule : Rule) (start : Url) (limits : Limits)
    (moves : List Move) :
    Reached site rule start limits ((new start limits).replay site rule moves) :=
  Reached.new.replay moves

/-- A crawl up to its end or up to an interruption goes through states reached only. -/
theorem Reached.runUntil {s : Session} (h : Reached site rule start limits s) (order : Order)
    (stop : Session → Bool) :
    Reached site rule start limits (s.runUntil site rule order stop).2 := by
  fun_induction Session.runUntil site rule order stop s with
  | case1 s _ => exact h
  | case2 s _ _ => exact h.interrupt
  | case3 s _ _ ih => exact ih (h.perform _)

theorem reached_run (site : Site) (rule : Rule) (start : Url) (limits : Limits) (order : Order) :
    Reached site rule start limits ((new start limits).run site rule order) :=
  Reached.new.runUntil order _

end Reached

/-! ## The next move -/

theorem settle_of_some (site : Site) (rule : Rule) {s : Session} {i : Nat} {e : Entry}
    (h : s.pending[i]? = some e) : s.settle site rule i =
      s.takeIn i e ((Outcome.ofVisit site rule e.url).without s.scheduler.visited) :=
  settleWith_of_some _ h

theorem pending_eq_nil_of_isFinished {s : Session} (h : s.isFinished = true) : s.pending = [] := by
  rw [isFinished, Bool.and_eq_true] at h
  exact List.isEmpty_iff.1 h.1

theorem scheduler_isFinished_of_isFinished {s : Session} (h : s.isFinished = true) :
    s.scheduler.isFinished = true := by
  rw [isFinished, Bool.and_eq_true] at h
  exact h.2

/-- The page whose visit ends next in a run is one of those being visited, if there are any. -/
theorem exists_next (order : Order) {s : Session} (h : s.pending ≠ []) :
    ∃ e, s.pending[s.nextIndex order]? = some e := by
  have hlt : s.nextIndex order < s.pending.length :=
    Nat.mod_lt (order s) (List.length_pos_iff.2 h)
  exact ⟨_, List.getElem?_eq_getElem hlt⟩

theorem nextMove_of_pending_eq_nil (order : Order) {s : Session} (h : s.pending = []) :
    s.nextMove order = .dispatch ∧ s.next? order = none := by
  simp [nextMove, next?, h]

theorem nextMove_of_some {order : Order} {s : Session} {e : Entry}
    (h : s.pending[s.nextIndex order]? = some e) :
    s.nextMove order = .settle (s.nextIndex order) ∧ s.next? order = some e := by
  refine ⟨?_, h⟩
  have hne : s.pending ≠ [] := List.ne_nil_of_mem (List.mem_of_getElem? h)
  simp [nextMove, hne]

theorem perform_dispatch (site : Site) (rule : Rule) {s : Session} (h : s.pending = []) :
    s.perform site rule .dispatch = s.dispatch := by
  simp [perform, h]

/-! ## Runs -/

/-- A run that is not interrupted ends in a state with nothing left to do. -/
theorem isFinished_run (site : Site) (rule : Rule) (order : Order) (s : Session) :
    (s.run site rule order).isFinished = true := by
  unfold run
  fun_induction runUntil site rule order (fun _ => false) s with
  | case1 s hfinished => exact hfinished
  | case2 s _ hstop => exact absurd hstop Bool.false_ne_true
  | case3 s _ _ ih => exact ih

/-- What a run that is not interrupted keeps. Of the states reached it is enough to look at the
batch handed out when nothing is being visited, and at the end of the visit whose turn it is. -/
theorem run_induction {site : Site} {rule : Rule} {start : Url} {limits : Limits} {order : Order}
    {P : Session → Prop} (hnew : P (new start limits))
    (hdispatch : ∀ s : Session, Reached site rule start limits s → s.pending = [] → P s →
      P s.dispatch)
    (htakeIn : ∀ (s : Session) (e : Entry), Reached site rule start limits s →
      s.pending[s.nextIndex order]? = some e → P s →
      P (s.takeIn (s.nextIndex order) e
        ((Outcome.ofVisit site rule e.url).without s.scheduler.visited))) :
    P ((new start limits).run site rule order) := by
  have hrun : ∀ s : Session, Reached site rule start limits s → P s →
      P (s.run site rule order) := by
    intro s hreached h
    unfold run
    fun_induction runUntil site rule order (fun _ => false) s with
    | case1 s _ => exact h
    | case2 s _ hstop => exact absurd hstop Bool.false_ne_true
    | case3 s _ _ ih =>
        refine ih (hreached.perform _) ?_
        by_cases hpending : s.pending = []
        · rw [(nextMove_of_pending_eq_nil order hpending).1, perform_dispatch site rule hpending]
          exact hdispatch s hreached hpending h
        · obtain ⟨e, hget⟩ := exists_next order hpending
          rw [(nextMove_of_some hget).1, perform, settle_of_some site rule hget]
          exact htakeIn s e hreached hget h
  exact hrun _ .new hnew

/-- A run that is not interrupted leaves no page unvisited that was handed out. -/
theorem pending_run (site : Site) (rule : Rule) (order : Order) (s : Session) :
    (s.run site rule order).pending = [] :=
  pending_eq_nil_of_isFinished (isFinished_run site rule order s)

/-- A run that is not interrupted ends with an empty frontier or with the quota used up. -/
theorem frontier_run_eq_nil_or (site : Site) (rule : Rule) (order : Order) (s : Session) :
    (s.run site rule order).scheduler.frontier = [] ∨
      (s.run site rule order).scheduler.quotaReached = true := by
  have hfinished := scheduler_isFinished_of_isFinished (isFinished_run site rule order s)
  rw [Scheduler.isFinished, Bool.or_eq_true] at hfinished
  exact hfinished.imp_left List.isEmpty_iff.1

/-- The crawl after so many moves of a run, or at its end if that comes first. -/
def course (site : Site) (rule : Rule) (order : Order) : Nat → Session → Session
  | 0, s => s
  | n + 1, s =>
    if s.isFinished then s
    else course site rule order n (s.perform site rule (s.nextMove order))

/-- A run that nothing stops can be computed move by move. -/
theorem runUntil_eq_course {site : Site} {rule : Rule} {order : Order} {stop : Session → Bool}
    (hstop : ∀ s, stop s = false) (n : Nat) {s : Session}
    (h : (course site rule order n s).isFinished = true) :
    s.runUntil site rule order stop = (false, course site rule order n s) := by
  induction n generalizing s with
  | zero =>
      have hfinished : s.isFinished = true := h
      rw [runUntil, if_pos hfinished]
      rfl
  | succ n ih =>
      rw [runUntil]
      unfold course at h ⊢
      split at h
      · next hfinished => rw [if_pos hfinished, if_pos hfinished]
      · next hfinished =>
        rw [if_neg hfinished, if_neg hfinished, hstop, if_neg Bool.false_ne_true]
        exact ih h

theorem run_eq_course {site : Site} {rule : Rule} {order : Order} (n : Nat) {s : Session}
    (h : (course site rule order n s).isFinished = true) :
    s.run site rule order = course site rule order n s :=
  congrArg Prod.snd (runUntil_eq_course (fun _ => rfl) n h)

/-! ## The end of a visit -/

/-- The links of an outcome that are put on the frontier. -/
def accepted (s : Session) (e : Entry) (o : Outcome) : List String :=
  s.scheduler.accepted e.depth o.links

theorem scheduler_takeIn (s : Session) (i : Nat) (e : Entry) (o : Outcome) :
    (s.takeIn i e o).scheduler = s.scheduler.push (e.depth + 1) (s.accepted e o) := by
  simp only [takeIn, record, Scheduler.enqueueLinks_eq, accepted]

@[simp] theorem pending_takeIn (s : Session) (i : Nat) (e : Entry) (o : Outcome) :
    (s.takeIn i e o).pending = s.pending.eraseIdx i := rfl

@[simp] theorem history_takeIn (s : Session) (i : Nat) (e : Entry) (o : Outcome) :
    (s.takeIn i e o).history = s.history := rfl

@[simp] theorem dispatched_takeIn (s : Session) (i : Nat) (e : Entry) (o : Outcome) :
    (s.takeIn i e o).dispatched = s.dispatched := rfl

@[simp] theorem limits_takeIn (s : Session) (i : Nat) (e : Entry) (o : Outcome) :
    (s.takeIn i e o).scheduler.limits = s.scheduler.limits := by
  rw [scheduler_takeIn]
  rfl

@[simp] theorem visited_takeIn (s : Session) (i : Nat) (e : Entry) (o : Outcome) :
    (s.takeIn i e o).scheduler.visited = s.scheduler.visited := by
  rw [scheduler_takeIn]
  rfl

theorem linksEnqueued_takeIn (s : Session) (i : Nat) (e : Entry) (o : Outcome) :
    (s.takeIn i e o).linksEnqueued = s.linksEnqueued + (s.accepted e o).length := by
  simp only [takeIn, record, Scheduler.enqueueLinks_eq, accepted]

/-- The pages that an outcome puts on the frontier. -/
def found (s : Session) (e : Entry) (o : Outcome) : List Entry :=
  (s.accepted e o).map fun url => ⟨url, e.depth + 1⟩

theorem frontier_takeIn (s : Session) (i : Nat) (e : Entry) (o : Outcome) :
    (s.takeIn i e o).scheduler.frontier = s.scheduler.frontier ++ s.found e o := by
  rw [scheduler_takeIn]
  rfl

/-- The end of a visit puts the pages found at the end of the agenda. -/
theorem agenda_takeIn (s : Session) (i : Nat) (e : Entry) (o : Outcome) :
    (s.takeIn i e o).agenda = s.agenda ++ s.found e o := by
  rw [agenda, frontier_takeIn, dispatched_takeIn, agenda, List.append_assoc]

theorem map_url_found (s : Session) (e : Entry) (o : Outcome) :
    (s.found e o).map Entry.url = s.accepted e o := by
  rw [found, List.map_map]
  exact List.map_id _

/-- A page found lies one link further away, is linked to and was not known. -/
theorem mem_found {s : Session} {e f : Entry} {o : Outcome} (h : f ∈ s.found e o) :
    f.depth = e.depth + 1 ∧ f.depth ≤ s.scheduler.limits.maxDepth ∧ f.url ∈ o.links ∧
      s.scheduler.knows f.url = false := by
  obtain ⟨url, hurl, rfl⟩ := List.mem_map.1 h
  unfold accepted Scheduler.accepted at hurl
  split at hurl
  · exact absurd hurl List.not_mem_nil
  · next hdeep =>
    have hnovel := Scheduler.mem_novel.1 hurl
    exact ⟨rfl, Nat.not_lt.1 hdeep, hnovel.1, hnovel.2⟩

/-! ## The order of a crawl -/

/-- How the parts of a crawl hang together. -/
structure Orderly (s : Session) : Prop where
  /-- What ever waited is the agenda. -/
  queued : s.scheduler.queued.reverse = s.agenda.map Entry.url
  /-- What was visited is what was handed out. -/
  visited : s.scheduler.visited.urls = s.history.map Entry.url
  /-- No page is on the agenda twice. -/
  distinct : (s.agenda.map Entry.url).Nodup
  /-- No page on the agenda is too deep. -/
  shallow : ∀ e ∈ s.agenda, e.depth ≤ s.scheduler.limits.maxDepth
  /-- The pages being visited were handed out. -/
  pending : s.pending.Sublist s.dispatched

namespace Orderly

variable {s : Session}

theorem mem_queued (h : s.Orderly) (url : String) :
    url ∈ s.scheduler.queued ↔ url ∈ s.agenda.map Entry.url := by
  rw [← h.queued, List.mem_reverse]

theorem mem_visited (h : s.Orderly) (url : String) :
    url ∈ s.scheduler.visited.urls ↔ url ∈ s.dispatched.map Entry.url := by
  rw [h.visited, dispatched, List.map_reverse, List.mem_reverse]

theorem size_visited (h : s.Orderly) : s.scheduler.visited.size = s.dispatched.length := by
  rw [VisitedSet.size, h.visited, dispatched, List.length_map, List.length_reverse]

/-- What was visited is on the agenda, so a scheduler knows what is on the agenda. -/
theorem knows_iff (h : s.Orderly) (url : String) :
    s.scheduler.knows url = true ↔ url ∈ s.agenda.map Entry.url := by
  have hsub : url ∈ s.dispatched.map Entry.url → url ∈ s.agenda.map Entry.url := by
    intro hmem
    rw [agenda, List.map_append]
    exact List.mem_append_left _ hmem
  rw [Scheduler.knows, Bool.or_eq_true, VisitedSet.contains, List.contains_iff_mem,
    List.contains_iff_mem, h.mem_visited, h.mem_queued]
  exact or_iff_right_of_imp hsub

/-- When no page waits, the pages visited are those of the agenda. -/
theorem contains_visited_iff (h : s.Orderly) (hempty : s.scheduler.frontier = []) (url : String) :
    s.scheduler.visited.contains url = true ↔ url ∈ s.agenda.map Entry.url := by
  rw [VisitedSet.contains, List.contains_iff_mem, h.mem_visited, agenda, hempty, List.append_nil]

theorem nodup_dispatched (h : s.Orderly) : (s.dispatched.map Entry.url).Nodup := by
  have hdistinct := h.distinct
  rw [agenda, List.map_append] at hdistinct
  exact (List.nodup_append.1 hdistinct).1

/-- A page that waits was not visited. -/
theorem not_visited_of_mem_frontier (h : s.Orderly) {e : Entry}
    (he : e ∈ s.scheduler.frontier) : s.scheduler.visited.contains e.url = false := by
  have hdistinct := h.distinct
  rw [agenda, List.map_append] at hdistinct
  have hdisjoint := (List.nodup_append.1 hdistinct).2.2
  rw [VisitedSet.contains, Bool.eq_false_iff, Ne, List.contains_iff_mem, h.mem_visited]
  intro hmem
  exact hdisjoint _ hmem _ (List.mem_map_of_mem he) rfl

theorem mem_dispatched_of_pending (h : s.Orderly) {i : Nat} {e : Entry}
    (he : s.pending[i]? = some e) : e ∈ s.dispatched :=
  h.pending.subset (List.mem_of_getElem? he)

end Orderly

/-! ## The next batch -/

/-- The pages of the next batch. -/
def batch (s : Session) : List Entry :=
  s.scheduler.frontier.take s.scheduler.room

/-- Handing out a batch moves the start of the frontier to the pages handed out. -/
theorem dispatch_eq {s : Session} (h : s.Orderly) :
    s.dispatch =
      { s with
        scheduler :=
          { s.scheduler with
            frontier := s.scheduler.frontier.drop s.scheduler.room
            visited := ⟨(s.batch.map Entry.url).reverse ++ s.scheduler.visited.urls⟩ }
        pending := s.batch
        history := s.batch.reverse ++ s.history } := by
  have hdistinct := h.distinct
  rw [agenda, List.map_append] at hdistinct
  have htake := Scheduler.takeBatch_of_fresh s.scheduler.limits s.scheduler.limits.batchSize
    s.scheduler.visited s.scheduler.frontier
    (fun e he => h.shallow e (List.mem_append_right _ he))
    (fun e he => h.not_visited_of_mem_frontier he)
    (List.nodup_append.1 hdistinct).2.1
  simp only [dispatch, Scheduler.nextBatch, htake]
  rfl

theorem pending_dispatch {s : Session} (h : s.Orderly) : s.dispatch.pending = s.batch := by
  rw [dispatch_eq h]

theorem dispatched_dispatch {s : Session} (h : s.Orderly) :
    s.dispatch.dispatched = s.dispatched ++ s.batch := by
  rw [dispatch_eq h, dispatched, List.reverse_append, List.reverse_reverse, dispatched]

theorem frontier_dispatch {s : Session} (h : s.Orderly) :
    s.dispatch.scheduler.frontier = s.scheduler.frontier.drop s.scheduler.room := by
  rw [dispatch_eq h]

/-- Handing out a batch leaves the agenda as it is. -/
theorem agenda_dispatch {s : Session} (h : s.Orderly) : s.dispatch.agenda = s.agenda := by
  rw [agenda, dispatched_dispatch h, frontier_dispatch h, List.append_assoc, batch,
    List.take_append_drop, agenda]

/-! ## Every state reached is orderly -/

theorem Orderly.new (start : Url) (limits : Limits) : (Session.new start limits).Orderly where
  queued := rfl
  visited := rfl
  distinct := List.pairwise_singleton _ _
  shallow := by
    intro e he
    rw [List.mem_singleton.1 he]
    exact Nat.zero_le _
  pending := List.Sublist.refl _

theorem Orderly.dispatch {s : Session} (h : s.Orderly) : s.dispatch.Orderly where
  queued := by
    rw [agenda_dispatch h, ← h.queued, dispatch_eq h]
  visited := by
    rw [dispatch_eq h, List.map_append, List.map_reverse, ← h.visited]
  distinct := by
    rw [agenda_dispatch h]
    exact h.distinct
  shallow := by
    rw [agenda_dispatch h]
    exact h.shallow
  pending := by
    rw [pending_dispatch h, dispatched_dispatch h]
    exact List.sublist_append_right _ _

theorem Orderly.takeIn {s : Session} (h : s.Orderly) (i : Nat) (e : Entry) (o : Outcome) :
    (s.takeIn i e o).Orderly where
  queued := by
    rw [agenda_takeIn, List.map_append, map_url_found, ← h.queued, scheduler_takeIn]
    simp [Scheduler.push]
  visited := by
    rw [visited_takeIn, history_takeIn]
    exact h.visited
  distinct := by
    rw [agenda_takeIn, List.map_append, map_url_found, List.nodup_append]
    refine ⟨h.distinct, ?_, ?_⟩
    · unfold Session.accepted Scheduler.accepted
      split
      · exact List.nodup_nil
      · exact Scheduler.nodup_novel _ _
    · intro url hknown url' hnew heq
      rw [← heq, ← map_url_found] at hnew
      obtain ⟨f, hf, rfl⟩ := List.mem_map.1 hnew
      have hunknown := (mem_found hf).2.2.2
      rw [(h.knows_iff f.url).2 hknown] at hunknown
      exact absurd hunknown Bool.noConfusion
  shallow := by
    intro f hf
    rw [agenda_takeIn] at hf
    rw [limits_takeIn]
    rcases List.mem_append.1 hf with hold | hnew
    · exact h.shallow f hold
    · exact (mem_found hnew).2.1
  pending := by
    rw [pending_takeIn, dispatched_takeIn]
    exact (List.eraseIdx_sublist _ _).trans h.pending

theorem Orderly.interrupt {s : Session} (h : s.Orderly) : s.interrupt.Orderly where
  queued := h.queued
  visited := h.visited
  distinct := h.distinct
  shallow := h.shallow
  pending := List.nil_sublist _

section Invariants

variable {site : Site} {rule : Rule} {start : Url} {limits : Limits} {s : Session}

theorem Reached.orderly (h : Reached site rule start limits s) : s.Orderly := by
  induction h with
  | new => exact Orderly.new start limits
  | dispatch _ _ ih => exact ih.dispatch
  | takeIn _ _ _ ih => exact ih.takeIn _ _ _
  | interrupt _ ih => exact ih.interrupt

theorem Reached.limits_eq (h : Reached site rule start limits s) :
    s.scheduler.limits = limits := by
  induction h with
  | new => rfl
  | dispatch _ _ ih => exact ih
  | takeIn _ _ _ ih =>
      rw [limits_takeIn]
      exact ih
  | interrupt _ ih => exact ih

theorem Reached.start_eq (h : Reached site rule start limits s) : s.start = start.written := by
  induction h with
  | new => rfl
  | dispatch _ _ ih => exact ih
  | takeIn _ _ _ ih => exact ih
  | interrupt _ ih => exact ih

/-- The quota bounds the pages visited, because a batch is cut to what is left of it. -/
theorem Reached.size_visited_le (h : Reached site rule start limits s) :
    s.scheduler.visited.size ≤ limits.maxPages := by
  induction h with
  | new => exact Nat.zero_le _
  | @dispatch s hreached _ ih =>
      have horderly := hreached.orderly
      have hroom : s.batch.length ≤ limits.maxPages - s.scheduler.visited.size := by
        rw [batch, List.length_take, Scheduler.room, hreached.limits_eq]
        omega
      rw [horderly.dispatch.size_visited, dispatched_dispatch horderly, List.length_append,
        ← horderly.size_visited]
      omega
  | takeIn _ _ _ ih =>
      rw [visited_takeIn]
      exact ih
  | interrupt _ ih => exact ih

theorem Reached.length_pending_le (h : Reached site rule start limits s) :
    s.pending.length ≤ limits.batchSize := by
  induction h with
  | new => exact Nat.zero_le _
  | @dispatch s hreached _ _ =>
      rw [pending_dispatch hreached.orderly, batch, List.length_take, Scheduler.room,
        hreached.limits_eq]
      omega
  | @takeIn s i e o _ _ _ ih =>
      have hle : (s.pending.eraseIdx i).length ≤ s.pending.length :=
        (List.eraseIdx_sublist _ _).length_le
      rw [pending_takeIn]
      omega
  | interrupt _ _ => exact Nat.zero_le _

end Invariants

end Prospector.Session
