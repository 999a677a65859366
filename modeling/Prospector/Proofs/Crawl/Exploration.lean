import Prospector.Crawl.Reach
import Prospector.Proofs.Crawl.Agenda

/-!
# Explorations

An exploration of a site visits the pages of its agenda one after the other and puts the new links
of each page at the end of the agenda. It knows nothing of batches, workers and quotas. A crawl in
which visits end in the order in which they began follows the exploration of its site, whatever the
size of its batches: handing out a batch is no step of the exploration, and each end of a visit is
one. What such a crawl brings is therefore fixed by the number of pages that it visits, and this
number does not depend on the workers.

## Main definitions

* `Exploration`, `Exploration.after` : the exploration of a site after a number of visits.
* `Session.Follows` : a crawl that has come as far as an exploration.

## Main results

* `Session.exists_follows_run` : a crawl in turn follows the exploration of its site.
* `Session.run_eq_of_workers` : the number of workers makes no difference to a crawl in turn.
-/

namespace Prospector

/-- The exploration of a site at one point of its course. -/
structure Exploration where
  /-- The pages found, in the order in which they were found. -/
  agenda : List Entry
  /-- How many of them were visited; these come first. -/
  done : Nat := 0
  findings : Findings := {}
  tally : Tally := {}
  linksEnqueued : Nat := 0

namespace Exploration

/-- An exploration that has not begun. -/
def new (start : String) : Exploration :=
  { agenda := [⟨start, 0⟩] }

/-- The links of a page that are put on the agenda: those that are new, each at its first place, and
none if they lie too deep. -/
def accepted (x : Exploration) (maxDepth : Nat) (e : Entry) (links : List String) : List String :=
  if maxDepth < e.depth + 1 then []
  else (links.filter fun url => !(x.agenda.map Entry.url).contains url).eraseDups

/-- The exploration after one more page was visited. -/
def visit (x : Exploration) (maxDepth : Nat) (e : Entry) (o : Outcome) : Exploration :=
  let accepted := x.accepted maxDepth e o.links
  { agenda := x.agenda ++ accepted.map fun url => ⟨url, e.depth + 1⟩
    done := x.done + 1
    findings :=
      match o.classification with
      | some c => x.findings.add e.url (.ofClassification c)
      | none => x.findings
    tally := x.tally.record o.state
    linksEnqueued := x.linksEnqueued + accepted.length }

/-- Visits the next page of the agenda, if there is one. -/
def step (site : Site) (rule : Rule) (maxDepth : Nat) (x : Exploration) : Exploration :=
  match x.agenda[x.done]? with
  | some e => x.visit maxDepth e (.ofVisit site rule e.url)
  | none => x

/-- The exploration of a site after a number of steps. -/
def after (site : Site) (rule : Rule) (start : String) (maxDepth : Nat) : Nat → Exploration
  | 0 => new start
  | n + 1 => (after site rule start maxDepth n).step site rule maxDepth

theorem step_of_some {site : Site} {rule : Rule} {maxDepth : Nat} {x : Exploration} {e : Entry}
    (h : x.agenda[x.done]? = some e) :
    x.step site rule maxDepth = x.visit maxDepth e (.ofVisit site rule e.url) := by
  simp only [step, h]

theorem step_of_none {site : Site} {rule : Rule} {maxDepth : Nat} {x : Exploration}
    (h : x.agenda[x.done]? = none) : x.step site rule maxDepth = x := by
  simp only [step, h]

/-- When all pages of the agenda were visited, an exploration is over. -/
theorem after_add_of_none {site : Site} {rule : Rule} {start : String} {maxDepth n : Nat}
    (h : (after site rule start maxDepth n).agenda[(after site rule start maxDepth n).done]? = none)
    (k : Nat) :
    after site rule start maxDepth (n + k) = after site rule start maxDepth n := by
  induction k with
  | zero => rfl
  | succ k ih => rw [← Nat.add_assoc, after, ih, step_of_none h]

/-- Whether an exploration goes no further under a quota: no page of the agenda is left, or the
quota is used up. -/
structure Stopped (x : Exploration) (maxPages : Nat) : Prop where
  done_le : x.done ≤ maxPages
  ended : x.agenda[x.done]? = none ∨ x.done = maxPages

/-- A quota stops the exploration of a site at one point only. -/
theorem eq_of_stopped {site : Site} {rule : Rule} {start : String} {maxDepth maxPages n m : Nat}
    (hn : (after site rule start maxDepth n).done = n)
    (hm : (after site rule start maxDepth m).done = m)
    (hstopN : (after site rule start maxDepth n).Stopped maxPages)
    (hstopM : (after site rule start maxDepth m).Stopped maxPages) : n = m := by
  have hnotLt : ∀ a b, (after site rule start maxDepth a).done = a →
      (after site rule start maxDepth b).done = b →
      (after site rule start maxDepth a).Stopped maxPages →
      (after site rule start maxDepth b).Stopped maxPages → ¬a < b := by
    intro a b ha hb hstopA hstopB hlt
    have hle := hstopB.done_le
    rcases hstopA.ended with hnone | hquota
    · have hsame := after_add_of_none hnone (b - a)
      rw [Nat.add_sub_cancel' (Nat.le_of_lt hlt)] at hsame
      rw [hsame] at hb
      omega
    · omega
  have hnm := hnotLt n m hn hm hstopN hstopM
  have hmn := hnotLt m n hm hn hstopM hstopN
  omega

end Exploration

namespace Session

/-! ## Crawls that follow an exploration -/

/-- A crawl has visited the pages that an exploration has visited and found what it has found. The
pages that are being visited are the next ones of the agenda. -/
structure Follows (x : Exploration) (s : Session) : Prop where
  agenda : s.agenda = x.agenda
  pending : s.pending = s.dispatched.drop x.done
  done_le : x.done ≤ s.dispatched.length
  findings : s.findings = x.findings
  tally : s.tally = x.tally
  linksEnqueued : s.linksEnqueued = x.linksEnqueued

namespace Follows

variable {x : Exploration} {s : Session}

theorem new (start : Url) (limits : Limits) :
    (Session.new start limits).Follows (.new start.written) where
  agenda := rfl
  pending := rfl
  done_le := Nat.le_refl _
  findings := rfl
  tally := rfl
  linksEnqueued := rfl

/-- When nothing is being visited, all pages handed out were visited. -/
theorem done_eq (h : s.Follows x) (hpending : s.pending = []) : x.done = s.dispatched.length := by
  have hdrop : s.dispatched.drop x.done = [] := by
    rw [← h.pending, hpending]
  have hle := List.drop_eq_nil_iff.1 hdrop
  have hge := h.done_le
  omega

/-- Handing out a batch leaves an exploration where it is. -/
theorem dispatch (h : s.Follows x) (horderly : s.Orderly) (hpending : s.pending = []) :
    s.dispatch.Follows x where
  agenda := by
    rw [agenda_dispatch horderly]
    exact h.agenda
  pending := by
    rw [pending_dispatch horderly, dispatched_dispatch horderly, h.done_eq hpending,
      List.drop_left]
  done_le := by
    rw [dispatched_dispatch horderly, List.length_append]
    exact Nat.le_add_right_of_le h.done_le
  findings := h.findings
  tally := h.tally
  linksEnqueued := h.linksEnqueued

/-- The page whose visit began first is the next one of the exploration. -/
theorem getElem?_done (h : s.Follows x) {e : Entry} (hfirst : s.pending[0]? = some e) :
    x.agenda[x.done]? = some e := by
  rw [h.pending, List.getElem?_drop, Nat.add_zero] at hfirst
  obtain ⟨hlt, hget⟩ := List.getElem?_eq_some_iff.1 hfirst
  rw [← h.agenda, Session.agenda, List.getElem?_append_left hlt, hfirst]

/-- A worker may leave out links to pages visited, because a crawl knows these anyway. -/
theorem accepted_eq (h : s.Follows x) (horderly : s.Orderly) (e : Entry) (o : Outcome) :
    s.accepted e (o.without s.scheduler.visited) =
      x.accepted s.scheduler.limits.maxDepth e o.links := by
  have hknows : ∀ url, s.scheduler.knows url = (x.agenda.map Entry.url).contains url := by
    intro url
    rw [Bool.eq_iff_iff, horderly.knows_iff, h.agenda, List.contains_iff_mem]
  have hvisited : ∀ url, (!s.scheduler.visited.contains url) = false →
      s.scheduler.knows url = true := by
    intro url hurl
    rw [Bool.not_eq_false'] at hurl
    rw [Scheduler.knows, hurl, Bool.true_or]
  unfold Session.accepted Scheduler.accepted Exploration.accepted
  split
  · rfl
  · rw [Outcome.without, Scheduler.novel_filter _ _ _ hvisited, Scheduler.novel]
    simp only [hknows]

/-- The end of the visit that began first is one step of the exploration. -/
theorem takeIn (h : s.Follows x) (horderly : s.Orderly) (site : Site) (rule : Rule) {e : Entry}
    (hfirst : s.pending[0]? = some e) :
    (s.takeIn 0 e ((Outcome.ofVisit site rule e.url).without s.scheduler.visited)).Follows
      (x.step site rule s.scheduler.limits.maxDepth) := by
  rw [Exploration.step_of_some (h.getElem?_done hfirst)]
  have haccepted := h.accepted_eq horderly e (.ofVisit site rule e.url)
  have hlength : 0 < s.pending.length := by
    obtain ⟨hlt, -⟩ := List.getElem?_eq_some_iff.1 hfirst
    exact hlt
  exact
    { agenda := by
        rw [agenda_takeIn, found, haccepted, h.agenda]
        rfl
      pending := by
        rw [pending_takeIn, dispatched_takeIn, h.pending, List.eraseIdx_zero, List.tail_drop]
        rfl
      done_le := by
        rw [h.pending, List.length_drop] at hlength
        show x.done + 1 ≤ s.dispatched.length
        omega
      findings := by
        show (match (Outcome.ofVisit site rule e.url).classification with
          | some c => s.findings.add e.url (.ofClassification c)
          | none => s.findings) = _
        rw [h.findings]
        rfl
      tally := by
        show s.tally.record _ = _
        rw [h.tally]
        rfl
      linksEnqueued := by
        rw [linksEnqueued_takeIn, haccepted, h.linksEnqueued]
        rfl }

theorem dispatched_eq (h : s.Follows x) (hpending : s.pending = []) :
    s.dispatched = x.agenda.take x.done := by
  rw [h.done_eq hpending, ← h.agenda, Session.agenda, List.take_left]

theorem frontier_eq (h : s.Follows x) (hpending : s.pending = []) :
    s.scheduler.frontier = x.agenda.drop x.done := by
  rw [h.done_eq hpending, ← h.agenda, Session.agenda, List.drop_left]

/-- What a crawl has brought that has come as far as an exploration. -/
theorem report_eq (h : s.Follows x) (horderly : s.Orderly) (hpending : s.pending = []) :
    s.report =
      { start := s.start
        findings := x.findings
        statistics :=
          { visited := x.done
            classified := x.findings.size
            linksEnqueued := x.linksEnqueued
            tally := x.tally } } := by
  rw [report, statistics, horderly.size_visited, ← h.done_eq hpending, h.findings, h.tally,
    h.linksEnqueued]

end Follows

/-! ## Crawls in turn -/

/-- Whether visits end in the order in which they began, in every crawl with the given limits. -/
def Order.IsInTurn (order : Order) (limits : Limits) : Prop :=
  ∀ s : Session, s.pending.length ≤ limits.batchSize → s.pending ≠ [] → s.nextIndex order = 0

theorem isInTurn_inTurn (limits : Limits) : Order.IsInTurn inTurn limits :=
  fun _ _ _ => Nat.zero_mod _

/-- With one worker there is only one order. -/
theorem isInTurn_of_maxWorkers_le_one (order : Order) {limits : Limits}
    (h : limits.maxWorkers ≤ 1) : Order.IsInTurn order limits := by
  intro s hlength hpending
  have hpos : 0 < s.pending.length := List.length_pos_iff.2 hpending
  have hone : s.pending.length = 1 := by
    unfold Limits.batchSize at hlength
    omega
  rw [nextIndex, hone, Nat.mod_one]

/-- A crawl in turn follows the exploration of its site through as many steps as it visits
pages. -/
theorem exists_follows_run (site : Site) (rule : Rule) (start : Url) (limits : Limits)
    {order : Order} (hturn : order.IsInTurn limits) :
    ∃ n, (Exploration.after site rule start.written limits.maxDepth n).done = n ∧
      ((new start limits).run site rule order).Follows
        (Exploration.after site rule start.written limits.maxDepth n) := by
  let explored := Exploration.after site rule start.written limits.maxDepth
  refine run_induction (P := fun s => ∃ n, (explored n).done = n ∧ s.Follows (explored n))
    ⟨0, rfl, Follows.new start limits⟩ ?_ ?_
  · rintro s hreached hpending ⟨n, hdone, hfollows⟩
    exact ⟨n, hdone, hfollows.dispatch hreached.orderly hpending⟩
  · rintro s e hreached hget ⟨n, hdone, hfollows⟩
    have hne : s.pending ≠ [] := by
      intro hnil
      rw [hnil] at hget
      exact nomatch hget
    rw [hturn s hreached.length_pending_le hne] at hget ⊢
    refine ⟨n + 1, ?_, ?_⟩
    · show ((explored n).step site rule limits.maxDepth).done = n + 1
      rw [Exploration.step_of_some (hfollows.getElem?_done hget)]
      exact congrArg (· + 1) hdone
    · have hstep := hfollows.takeIn hreached.orderly site rule hget
      rw [hreached.limits_eq] at hstep
      exact hstep

/-- Where a crawl ends that is not interrupted, the exploration that it follows stops. -/
theorem Follows.stopped_run {site : Site} {rule : Rule} {start : Url} {limits : Limits}
    {order : Order} {x : Exploration}
    (h : ((Session.new start limits).run site rule order).Follows x) :
    x.Stopped limits.maxPages := by
  have hreached := reached_run site rule start limits order
  have hpending := pending_run site rule order (Session.new start limits)
  have hsize := hreached.orderly.size_visited
  have hdone := h.done_eq hpending
  have hle := hreached.size_visited_le
  refine ⟨by omega, ?_⟩
  rcases frontier_run_eq_nil_or site rule order (Session.new start limits) with hempty | hquota
  · have hdrop := h.frontier_eq hpending
    rw [hempty] at hdrop
    exact .inl (List.getElem?_eq_none (List.drop_eq_nil_iff.1 hdrop.symm))
  · rw [Scheduler.quotaReached, decide_eq_true_eq, hreached.limits_eq] at hquota
    exact .inr (by omega)

/-- Two crawls of a site in turn that differ in the number of their workers only hand out the same
pages with the same depths in the same order, and bring the same. -/
theorem run_eq_of_workers (site : Site) (rule : Rule) (start : Url)
    (maxPages maxDepth workers workers' : Nat) :
    let s := (new start ⟨maxPages, maxDepth, workers⟩).run site rule inTurn
    let t := (new start ⟨maxPages, maxDepth, workers'⟩).run site rule inTurn
    s.dispatched = t.dispatched ∧ s.report = t.report := by
  intro s t
  have hreachedS := reached_run site rule start ⟨maxPages, maxDepth, workers⟩ inTurn
  have hreachedT := reached_run site rule start ⟨maxPages, maxDepth, workers'⟩ inTurn
  have hpendingS : s.pending = [] := pending_run site rule inTurn _
  have hpendingT : t.pending = [] := pending_run site rule inTurn _
  obtain ⟨n, hn, hfollowsS⟩ := exists_follows_run site rule start
    ⟨maxPages, maxDepth, workers⟩ (isInTurn_inTurn _)
  obtain ⟨m, hm, hfollowsT⟩ := exists_follows_run site rule start
    ⟨maxPages, maxDepth, workers'⟩ (isInTurn_inTurn _)
  have hnm : n = m :=
    Exploration.eq_of_stopped hn hm hfollowsS.stopped_run hfollowsT.stopped_run
  subst hnm
  constructor
  · rw [hfollowsS.dispatched_eq hpendingS, hfollowsT.dispatched_eq hpendingT]
  · rw [hfollowsS.report_eq hreachedS.orderly hpendingS,
      hfollowsT.report_eq hreachedT.orderly hpendingT, hreachedS.start_eq, hreachedT.start_eq]

end Session

end Prospector
