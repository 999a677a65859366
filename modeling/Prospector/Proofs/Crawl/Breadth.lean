import Mathlib.Data.List.Nodup
import Mathlib.Order.Bounds.Basic
import Prospector.Proofs.Crawl.Exploration
import Prospector.Proofs.Crawl.Safety

/-!
# Breadth first

An exploration finds the pages of a site in the order of their distance from the start. Its agenda
is sorted by depth and spans two levels at most from the next page on, so a page is put on it as
soon as a nearest page that links to it is visited. A crawl in turn hands out the pages of its
exploration one after the other, which makes its depths distances. Out of turn this fails, see
`Prospector.Proofs.Crawl.Coverage`.

## Main definitions

* `Site.distances` : the lengths of the chains of links to an address.
* `Exploration.Breadth` : what an exploration keeps.

## Main results

* `Exploration.Breadth.step` : each visit keeps it.
* `Session.breadth_first` : depths, order and reach of a crawl with one worker.
-/

namespace Prospector

/-- The lengths of the chains of links that lead from `start` to an address. -/
def Site.distances (site : Site) (start url : String) : Set Nat :=
  {d | site.Chain start d url}

namespace Exploration

/-- What an exploration keeps: the agenda is sorted by depth, no page on it is more than one level
below the next page to visit, and the links of the pages visited are on it, one level below their
page at most. -/
structure Breadth (site : Site) (start : String) (maxDepth : Nat) (x : Exploration) : Prop where
  start_mem : ⟨start, 0⟩ ∈ x.agenda
  sorted : x.agenda.Pairwise fun e f => e.depth ≤ f.depth
  near : ∀ next, x.agenda[x.done]? = some next → ∀ e ∈ x.agenda, e.depth ≤ next.depth + 1
  closed : ∀ e ∈ x.agenda.take x.done, e.depth < maxDepth → ∀ url, site.LeadsTo e.url url →
    ∃ f ∈ x.agenda, f.url = url ∧ f.depth ≤ e.depth + 1

namespace Breadth

variable {site : Site} {rule : Rule} {start : String} {maxDepth : Nat} {x : Exploration}

theorem new (site : Site) (start : String) (maxDepth : Nat) :
    (Exploration.new start).Breadth site start maxDepth where
  start_mem := List.mem_singleton_self _
  sorted := List.pairwise_singleton _ _
  near := by
    intro next _ e he
    rw [List.mem_singleton.1 he]
    exact Nat.zero_le _
  closed := by
    intro e he
    exact absurd he List.not_mem_nil

/-- In a sorted agenda no page is deeper than a later one. -/
theorem depth_le_of_sorted {agenda : List Entry}
    (h : agenda.Pairwise fun e f => e.depth ≤ f.depth) {i j : Nat} {e f : Entry} (hlt : i < j)
    (hi : agenda[i]? = some e) (hj : agenda[j]? = some f) : e.depth ≤ f.depth := by
  obtain ⟨hiLt, rfl⟩ := List.getElem?_eq_some_iff.1 hi
  obtain ⟨hjLt, rfl⟩ := List.getElem?_eq_some_iff.1 hj
  exact List.pairwise_iff_getElem.1 h i j hiLt hjLt hlt

/-- A link of the page visited is on the agenda already or is put there. -/
theorem exists_mem_visit {e : Entry} (hnext : x.agenda[x.done]? = some e)
    (h : x.Breadth site start maxDepth) (hdepth : e.depth < maxDepth) {url : String}
    (hlink : site.LeadsTo e.url url) :
    ∃ f ∈ (x.visit maxDepth e (.ofVisit site rule e.url)).agenda,
      f.url = url ∧ f.depth ≤ e.depth + 1 := by
  by_cases hknown : url ∈ x.agenda.map Entry.url
  · obtain ⟨f, hf, hurl⟩ := List.mem_map.1 hknown
    exact ⟨f, List.mem_append_left _ hf, hurl, h.near e hnext f hf⟩
  · refine ⟨⟨url, e.depth + 1⟩, List.mem_append_right _ (List.mem_map.2 ⟨url, ?_, rfl⟩), rfl,
      Nat.le_refl _⟩
    rw [accepted, if_neg (by omega), List.mem_eraseDups, List.mem_filter]
    exact ⟨(site.leadsTo_iff rule e.url url).1 hlink, by simpa using hknown⟩

theorem visit {e : Entry} (hnext : x.agenda[x.done]? = some e)
    (h : x.Breadth site start maxDepth) :
    (x.visit maxDepth e (.ofVisit site rule e.url)).Breadth site start maxDepth := by
  let links := x.accepted maxDepth e (Outcome.ofVisit site rule e.url).links
  let found : List Entry := links.map fun url => ⟨url, e.depth + 1⟩
  have hagenda : (x.visit maxDepth e (.ofVisit site rule e.url)).agenda = x.agenda ++ found := rfl
  have hdone : (x.visit maxDepth e (.ofVisit site rule e.url)).done = x.done + 1 := rfl
  have hfound : ∀ f ∈ found, f.depth = e.depth + 1 := by
    intro f hf
    obtain ⟨url, -, rfl⟩ := List.mem_map.1 hf
    rfl
  have hlt : x.done < x.agenda.length := by
    obtain ⟨hlt, -⟩ := List.getElem?_eq_some_iff.1 hnext
    exact hlt
  have hsorted : (x.agenda ++ found).Pairwise fun e f => e.depth ≤ f.depth := by
    rw [List.pairwise_append]
    refine ⟨h.sorted, ?_, ?_⟩
    · refine List.pairwise_of_forall_mem_list fun f hf g hg => ?_
      rw [hfound f hf, hfound g hg]
    · intro f hf g hg
      rw [hfound g hg]
      exact h.near e hnext f hf
  refine
    { start_mem := List.mem_append_left _ h.start_mem
      sorted := hsorted
      near := ?_
      closed := ?_ }
  · intro next hnext' f hf
    have he : e.depth ≤ next.depth := by
      have hget : (x.agenda ++ found)[x.done]? = some e := by
        rw [List.getElem?_append_left hlt, hnext]
      exact depth_le_of_sorted hsorted (Nat.lt_succ_self x.done) hget hnext'
    have hle : f.depth ≤ e.depth + 1 := by
      rcases List.mem_append.1 hf with hold | hnew
      · exact h.near e hnext f hold
      · exact Nat.le_of_eq (hfound f hnew)
    omega
  · intro g hg hdepth url hlink
    have htake : (x.agenda ++ found).take (x.done + 1) = x.agenda.take x.done ++ [e] := by
      rw [List.take_append_of_le_length hlt, List.take_add_one, hnext]
      rfl
    rw [hagenda, hdone, htake] at hg
    rcases List.mem_append.1 hg with hold | hlast
    · obtain ⟨f, hf, hurl, hle⟩ := h.closed g hold hdepth url hlink
      exact ⟨f, List.mem_append_left _ hf, hurl, hle⟩
    · obtain rfl := List.mem_singleton.1 hlast
      exact exists_mem_visit hnext h hdepth hlink

theorem step (h : x.Breadth site start maxDepth) :
    (x.step site rule maxDepth).Breadth site start maxDepth := by
  cases hnext : x.agenda[x.done]? with
  | none =>
      rw [step_of_none hnext]
      exact h
  | some e =>
      rw [step_of_some hnext]
      exact h.visit hnext

theorem after (site : Site) (rule : Rule) (start : String) (maxDepth n : Nat) :
    (Exploration.after site rule start maxDepth n).Breadth site start maxDepth := by
  induction n with
  | zero => exact new site start maxDepth
  | succ n ih => exact ih.step

/-! ## Distances -/

/-- What was not visited yet is not nearer than the next page. -/
theorem exists_next_le (h : x.Breadth site start maxDepth) {e : Entry}
    (he : e ∈ x.agenda.drop x.done) :
    ∃ next, x.agenda[x.done]? = some next ∧ next.depth ≤ e.depth := by
  cases hdrop : x.agenda.drop x.done with
  | nil =>
      rw [hdrop] at he
      exact absurd he List.not_mem_nil
  | cons next rest =>
      have hsorted := h.sorted.sublist (List.drop_sublist x.done x.agenda)
      rw [hdrop, List.pairwise_cons] at hsorted
      refine ⟨next, ?_, ?_⟩
      · rw [← Nat.add_zero x.done, ← List.getElem?_drop, hdrop]
        rfl
      · rw [hdrop] at he
        rcases List.mem_cons.1 he with rfl | hrest
        · exact Nat.le_refl _
        · exact hsorted.1 e hrest

/-- A page that few links lead to is on the agenda as soon as the next page is as deep. -/
theorem exists_mem_of_chain (h : x.Breadth site start maxDepth) {d : Nat} {url : String}
    (hchain : site.Chain start d url) (hd : d ≤ maxDepth)
    (hnext : ∀ next, x.agenda[x.done]? = some next → d ≤ next.depth) :
    ∃ e ∈ x.agenda, e.url = url ∧ e.depth ≤ d := by
  induction hchain with
  | start => exact ⟨_, h.start_mem, rfl, Nat.le_refl _⟩
  | @link d page url _ hlink ih =>
      obtain ⟨e, he, rfl, hle⟩ := ih (by omega) fun next hget => by
        have := hnext next hget
        omega
      have hvisited : e ∈ x.agenda.take x.done := by
        rw [← List.take_append_drop x.done x.agenda] at he
        rcases List.mem_append.1 he with htake | hdrop
        · exact htake
        · obtain ⟨next, hget, hnextLe⟩ := h.exists_next_le hdrop
          have := hnext next hget
          omega
      obtain ⟨f, hf, hurl, hfLe⟩ := h.closed e hvisited (by omega) url hlink
      exact ⟨f, hf, hurl, by omega⟩

/-- No chain of links to a page on the agenda is shorter than its depth. -/
theorem depth_le_of_chain (h : x.Breadth site start maxDepth)
    (hdistinct : (x.agenda.map Entry.url).Nodup) (hshallow : ∀ e ∈ x.agenda, e.depth ≤ maxDepth)
    {e : Entry} (he : e ∈ x.agenda) {d : Nat} (hchain : site.Chain start d e.url) :
    e.depth ≤ d := by
  by_contra hlt
  have hmax := hshallow e he
  obtain ⟨f, hf, hurl, hle⟩ := h.exists_mem_of_chain hchain (by omega) fun next hget => by
    have := h.near next hget e he
    omega
  obtain rfl := List.inj_on_of_nodup_map hdistinct hf he hurl
  omega

end Breadth

end Exploration

namespace Session

/-! ## Crawls in turn -/

section Follows

variable {site : Site} {rule : Rule} {start : Url} {limits : Limits} {x : Exploration} {s : Session}

/-- A crawl that follows an exploration hands out the pages with their distances. -/
theorem Follows.isLeast_depth (h : s.Follows x) (hreached : Reached site rule start limits s)
    (hbreadth : x.Breadth site start.written limits.maxDepth) {e : Entry} (he : e ∈ s.agenda) :
    IsLeast (site.distances start.written e.url) e.depth := by
  have horderly := hreached.orderly
  have hdistinct := horderly.distinct
  have hshallow := horderly.shallow
  refine ⟨hreached.chain e he, fun d hchain => ?_⟩
  rw [h.agenda] at he hdistinct hshallow
  rw [hreached.limits_eq] at hshallow
  exact hbreadth.depth_le_of_chain hdistinct hshallow he hchain

/-- The pages handed out are not deeper than the pages that wait. -/
theorem Follows.sorted (h : s.Follows x) (hbreadth : x.Breadth site start.written limits.maxDepth) :
    (s.dispatched.Pairwise fun e f => e.depth ≤ f.depth) ∧
      ∀ e ∈ s.dispatched, ∀ f ∈ s.scheduler.frontier, e.depth ≤ f.depth := by
  have hsorted := hbreadth.sorted
  rw [← h.agenda, Session.agenda, List.pairwise_append] at hsorted
  exact ⟨hsorted.1, hsorted.2.2⟩

/-- Once nothing is being visited, what a chain of links leads to was handed out if all pages that
wait are deeper than the chain is long. -/
theorem Follows.mem_dispatched_of_chain (h : s.Follows x) (hpending : s.pending = [])
    (hbreadth : x.Breadth site start.written limits.maxDepth) {d : Nat} {url : String}
    (hchain : site.Chain start.written d url) (hd : d ≤ limits.maxDepth)
    (hwaiting : ∀ e ∈ s.scheduler.frontier, d < e.depth) :
    url ∈ s.dispatched.map Entry.url := by
  have hfrontier := h.frontier_eq hpending
  obtain ⟨e, he, rfl, hle⟩ := hbreadth.exists_mem_of_chain hchain hd fun next hget => by
    have hnext : next ∈ s.scheduler.frontier := by
      rw [hfrontier]
      exact mem_drop_of_getElem? hget
    exact Nat.le_of_lt (hwaiting next hnext)
  rw [← h.agenda, Session.agenda] at he
  rcases List.mem_append.1 he with hout | hwaits
  · exact List.mem_map_of_mem hout
  · have := hwaiting e hwaits
    omega

end Follows

/-- A crawl in turn follows an exploration of the site that keeps to the order of distances. -/
theorem exists_breadth_run (site : Site) (rule : Rule) (start : Url) (limits : Limits)
    {order : Order} (hturn : order.IsInTurn limits) :
    ∃ x : Exploration, ((new start limits).run site rule order).Follows x ∧
      x.Breadth site start.written limits.maxDepth := by
  obtain ⟨n, -, hfollows⟩ := exists_follows_run site rule start limits hturn
  exact ⟨_, hfollows, .after site rule start.written limits.maxDepth n⟩

/-- A crawl with one worker ends when no page waits or the quota is used up. It hands out each page
with its distance from the start, nearer pages first. If no page waits, the pages handed out are
those within the depth limit; if the quota is used up, they are as many as it allows and contain
every page nearer than the last one. -/
theorem breadth_first (site : Site) (rule : Rule) (start : Url) (limits : Limits) (order : Order)
    (hworkers : limits.maxWorkers ≤ 1) :
    let s := (new start limits).run site rule order
    (s.scheduler.frontier = [] ∨ s.scheduler.quotaReached = true) ∧
      (∀ e ∈ s.dispatched, IsLeast (site.distances start.written e.url) e.depth) ∧
      (s.dispatched.Pairwise fun e f => e.depth ≤ f.depth) ∧
      (s.scheduler.frontier = [] → ∀ url, url ∈ s.dispatched.map Entry.url ↔
        ∃ d ≤ limits.maxDepth, IsLeast (site.distances start.written url) d) ∧
      (s.scheduler.quotaReached = true → s.dispatched.length = limits.maxPages ∧
        ∀ last, s.dispatched.getLast? = some last → ∀ url d,
          IsLeast (site.distances start.written url) d → d < last.depth →
            url ∈ s.dispatched.map Entry.url) := by
  intro s
  have hreached : Reached site rule start limits s := reached_run site rule start limits order
  have hpending : s.pending = [] := pending_run site rule order _
  obtain ⟨x, hfollows, hbreadth⟩ := exists_breadth_run site rule start limits
    (isInTurn_of_maxWorkers_le_one order hworkers)
  have hleast : ∀ e ∈ s.dispatched, IsLeast (site.distances start.written e.url) e.depth :=
    fun e he => hfollows.isLeast_depth hreached hbreadth (List.mem_append_left _ he)
  have hsorted := hfollows.sorted hbreadth
  have hshallow : ∀ e ∈ s.dispatched, e.depth ≤ limits.maxDepth := by
    intro e he
    rw [← hreached.limits_eq]
    exact hreached.orderly.shallow e (List.mem_append_left _ he)
  refine ⟨frontier_run_eq_nil_or site rule order _, hleast, hsorted.1, ?_, ?_⟩
  · intro hempty url
    constructor
    · intro hmem
      obtain ⟨e, he, rfl⟩ := List.mem_map.1 hmem
      exact ⟨e.depth, hshallow e he, hleast e he⟩
    · rintro ⟨d, hd, hdistance⟩
      refine hfollows.mem_dispatched_of_chain hpending hbreadth hdistance.1 hd fun e he => ?_
      rw [hempty] at he
      exact absurd he List.not_mem_nil
  · intro hquota
    rw [Scheduler.quotaReached, decide_eq_true_eq, hreached.limits_eq,
      hreached.orderly.size_visited] at hquota
    have hle := hreached.size_visited_le
    rw [hreached.orderly.size_visited] at hle
    refine ⟨Nat.le_antisymm hle hquota, fun last hlast url d hdistance hlt => ?_⟩
    have hmem : last ∈ s.dispatched := List.mem_of_getLast? hlast
    have hmax := hshallow last hmem
    exact hfollows.mem_dispatched_of_chain hpending hbreadth hdistance.1 (by omega) fun e he =>
      Nat.lt_of_lt_of_le hlt (hsorted.2 last hmem e he)

/-! ## A detour -/

/-- The address of the detour. -/
def detourHome : Url :=
  { scheme := "http"
    authority := some { host := .eight [0, 0, 0, 0, 0, 0, 0, 1] }
    path := .rooted [""] }

/-- A site with two ways to one of its pages, of which the longer one begins on an earlier page of
the start: `a` leads to `e` by way of `d`, `c` leads there directly. Only `e` leads on to `f`. -/
def detour : Site
  | "http://[::1]/" => .page "<a href=?a><a href=?b><a href=?c>"
  | "http://[::1]/?a" => .page "<a href=?d>"
  | "http://[::1]/?c" => .page "<a href=?e>"
  | "http://[::1]/?d" => .page "<a href=?e>"
  | "http://[::1]/?e" => .page "<a href=?f>"
  | _ => .failed (.status 404)

/-- With one worker the detour is visited as far as the depth limit goes, and the last page of it is
three links away. -/
theorem breadth_first_detour :
    let s := (new detourHome ⟨100, 3, 1⟩).run detour (.oneOf []) inTurn
    s.dispatched.getLast? = some ⟨"http://[::1]/?f", 3⟩ ∧
      IsLeast (detour.distances detourHome.written "http://[::1]/?f") 3 := by
  intro s
  have hcourse :
      let t := course detour (.oneOf []) inTurn 14 (new detourHome ⟨100, 3, 1⟩)
      t.isFinished = true ∧ t.dispatched.getLast? = some ⟨"http://[::1]/?f", 3⟩ := by
    decide +kernel
  have hlast : s.dispatched.getLast? = some ⟨"http://[::1]/?f", 3⟩ := by
    rw [show s = _ from run_eq_course 14 hcourse.1]
    exact hcourse.2
  have hfirst := breadth_first detour (.oneOf []) detourHome ⟨100, 3, 1⟩ inTurn (Nat.le_refl 1)
  exact ⟨hlast, hfirst.2.1 _ (List.mem_of_getLast? hlast)⟩

end Session

end Prospector
