import Prospector.Proofs.Crawl.Breadth

/-!
# Coverage

What a crawl misses whose visits end out of turn. A page keeps the depth with which it was found
first, and out of turn a longer chain of links may find it before a shorter one does. Found at the
depth limit it leads no further, and the pages behind it are missed although they lie within the
limit.

The delay is bounded. A page is handed out with a later batch than the page that found it. While
depths grow by two, a batch is therefore visited to its end, and all links of pages known before it
are found. So a page `k` links away is found at a depth less than `2 * k`.

## Main definitions

* `Session.Covers` : whether all pages within some distance were visited.
* `Session.Lagging` : what a run keeps in whatever order visits end.

## Main results

* `Session.Lagging.takeIn`, `Session.Lagging.dispatch` : each move of a run keeps it.
* `Session.Lagging.depth_le` : how far depths lag behind distances.
* `Session.covers_of_frontier_eq_nil` : what is covered in every order, and when all is.
-/

namespace Prospector.Session

/-- Whether a crawl visited every page that a chain of at most `depth` links leads to. -/
def Covers (s : Session) (site : Site) (start : String) (depth : Nat) : Prop :=
  ∀ d ≤ depth, ∀ url, site.Chain start d url → s.scheduler.visited.contains url = true

/-- What a run keeps in whatever order visits end. The first `done` pages handed out are those of
the batches before the last one. -/
structure Lagging (site : Site) (start : String) (done : Nat) (s : Session) : Prop where
  first : s.agenda[0]? = some ⟨start, 0⟩
  /-- Only pages of the last batch are being visited. -/
  pending : s.pending ⊆ s.dispatched.drop done
  /-- The links of the pages visited are on the agenda. -/
  closed : ∀ e ∈ s.dispatched, e ∉ s.pending → e.depth < s.scheduler.limits.maxDepth →
    ∀ url, site.LeadsTo e.url url → url ∈ s.agenda.map Entry.url
  /-- The pages of the last batch were found by pages of batches before it. -/
  parent : ∀ e ∈ s.dispatched.drop done, 0 < e.depth →
    ∃ p ∈ s.dispatched.take done, p.depth + 1 = e.depth
  /-- The pages that wait were found by pages handed out. -/
  waiting : ∀ e ∈ s.scheduler.frontier, 0 < e.depth → ∃ p ∈ s.dispatched, p.depth + 1 = e.depth
  /-- A page so deep comes after all pages that are half as far away. -/
  late : ∀ i e, s.agenda[i]? = some e → ∀ k url, site.Chain start k url → 2 * k - 1 < e.depth →
    url ∈ (s.agenda.take i).map Entry.url

namespace Lagging

variable {site : Site} {start : String} {done : Nat} {s : Session}

/-! ## Depths -/

/-- A page `k` links away is found at a depth less than `2 * k`. -/
theorem depth_le (h : s.Lagging site start done) (horderly : s.Orderly) {e : Entry}
    (he : e ∈ s.agenda) {k : Nat} (hchain : site.Chain start k e.url) : e.depth ≤ 2 * k - 1 := by
  obtain ⟨i, hget⟩ := List.mem_iff_getElem?.1 he
  by_contra hdeep
  have hbefore := h.late i e hget k e.url hchain (by omega)
  have hdistinct := horderly.distinct
  rw [← List.take_append_drop i s.agenda, List.map_append] at hdistinct
  have hafter : e.url ∈ (s.agenda.drop i).map Entry.url :=
    List.mem_map_of_mem (mem_drop_of_getElem? hget)
  exact (List.nodup_append.1 hdistinct).2.2 _ hbefore _ hafter rfl

/-- When a page of an earlier batch is twice as deep, so many links lead to pages of earlier batches
only. -/
theorem exists_mem_take (h : s.Lagging site start done) {p : Entry}
    (hp : p ∈ s.dispatched.take done) {k : Nat} {url : String} (hchain : site.Chain start k url)
    (hdepth : 2 * k ≤ p.depth) : ∃ g ∈ s.dispatched.take done, g.url = url := by
  obtain ⟨j, hget⟩ := List.mem_iff_getElem?.1 hp
  obtain ⟨hlt, -⟩ := List.getElem?_eq_some_iff.1 hget
  rw [List.length_take] at hlt
  rw [List.getElem?_take_of_lt (by omega)] at hget
  have htake : ∀ i ≤ done, i ≤ s.dispatched.length →
      s.agenda.take i ⊆ s.dispatched.take done := by
    intro i hi hlength
    rw [agenda, List.take_append_of_le_length hlength]
    exact (List.take_sublist_take_left hi).subset
  by_cases hdeep : 2 * k - 1 < p.depth
  · have hagenda : s.agenda[j]? = some p := by
      rw [agenda, List.getElem?_append_left (by omega), hget]
    obtain ⟨g, hg, hurl⟩ := List.mem_map.1 (h.late j p hagenda k url hchain hdeep)
    exact ⟨g, htake j (by omega) (by omega) hg, hurl⟩
  · -- Only the start is no link away, and it is the first page of the first batch.
    obtain rfl : k = 0 := by omega
    refine ⟨⟨start, 0⟩, htake 1 (by omega) (by omega) ?_, hchain.eq_start.symm⟩
    rw [List.take_add_one, h.first]
    exact List.mem_singleton_self _

/-- The pages of earlier batches are no longer being visited. -/
theorem not_mem_pending (h : s.Lagging site start done) (horderly : s.Orderly) {g : Entry}
    (hg : g ∈ s.dispatched.take done) : g ∉ s.pending := by
  intro hpending
  have hnodup := horderly.nodup_dispatched.of_map
  exact List.disjoint_take_drop hnodup (Nat.le_refl done) hg (h.pending hpending)

/-- What the visit of a page finds comes after all pages that are half as far away. -/
theorem mem_agenda_of_chain (h : s.Lagging site start done) (horderly : s.Orderly) {e : Entry}
    (he : e ∈ s.pending) (hmax : e.depth < s.scheduler.limits.maxDepth) {k : Nat} {url : String}
    (hchain : site.Chain start k url) (hdeep : 2 * k - 1 < e.depth + 1) :
    url ∈ s.agenda.map Entry.url := by
  cases hchain with
  | start => exact List.mem_map_of_mem (List.mem_of_getElem? h.first)
  | @link d page _ hpage hlink =>
      -- The page that found `e` is two levels above what `e` finds, and no longer being visited.
      obtain ⟨p, hp, hdepth⟩ := h.parent e (h.pending he) (by omega)
      obtain ⟨g, hg, rfl⟩ := h.exists_mem_take hp hpage (by omega)
      have hgOut : g ∈ s.dispatched := List.mem_of_mem_take hg
      have hle := h.depth_le horderly (List.mem_append_left _ hgOut) hpage
      exact h.closed g hgOut (h.not_mem_pending horderly hg) (by omega) url hlink

/-! ## Moves -/

theorem new (site : Site) (start : Url) (limits : Limits) :
    (Session.new start limits).Lagging site start.written 0 where
  first := rfl
  pending := List.nil_subset _
  closed := by
    intro e he
    exact absurd he List.not_mem_nil
  parent := by
    intro e he
    exact absurd he List.not_mem_nil
  waiting := by
    intro e he hdepth
    rw [List.mem_singleton.1 he] at hdepth
    exact absurd hdepth (Nat.lt_irrefl 0)
  late := by
    intro i e hget k url _ hdeep
    rw [List.mem_singleton.1 (List.mem_of_getElem? hget)] at hdeep
    exact absurd hdeep (Nat.not_lt_zero _)

/-- When a batch is handed out, all pages handed out before become those of earlier batches. -/
theorem dispatch (h : s.Lagging site start done) (horderly : s.Orderly)
    (hpending : s.pending = []) :
    s.dispatch.Lagging site start s.dispatched.length where
  first := by
    rw [agenda_dispatch horderly]
    exact h.first
  pending := by
    rw [pending_dispatch horderly, dispatched_dispatch horderly, List.drop_left]
    exact List.Subset.refl _
  closed := by
    rw [agenda_dispatch horderly, pending_dispatch horderly, dispatched_dispatch horderly]
    intro e he hvisited hmax
    rcases List.mem_append.1 he with hold | hnew
    · refine h.closed e hold ?_ hmax
      rw [hpending]
      exact List.not_mem_nil
    · exact absurd hnew hvisited
  parent := by
    rw [dispatched_dispatch horderly, List.drop_left, List.take_left]
    intro e he
    exact h.waiting e (List.mem_of_mem_take he)
  waiting := by
    rw [dispatched_dispatch horderly, frontier_dispatch horderly]
    intro e he hdepth
    obtain ⟨p, hp, hparent⟩ := h.waiting e (List.mem_of_mem_drop he) hdepth
    exact ⟨p, List.mem_append_left _ hp, hparent⟩
  late := by
    rw [agenda_dispatch horderly]
    exact h.late

/-- The links of a page are on the agenda once its visit has ended. -/
theorem mem_agenda_takeIn (horderly : s.Orderly) (rule : Rule) (i : Nat) {e : Entry}
    (hmax : e.depth < s.scheduler.limits.maxDepth) {url : String}
    (hlink : site.LeadsTo e.url url) :
    url ∈ (s.takeIn i e
      ((Outcome.ofVisit site rule e.url).without s.scheduler.visited)).agenda.map Entry.url := by
  rw [agenda_takeIn, List.map_append, map_url_found, List.mem_append, ← horderly.knows_iff]
  cases hknown : s.scheduler.knows url with
  | true => exact .inl rfl
  | false =>
      have hnew : s.scheduler.visited.contains url = false := by
        rw [Scheduler.knows, Bool.or_eq_false_iff] at hknown
        exact hknown.1
      refine .inr ?_
      rw [Session.accepted, Scheduler.accepted, if_neg (by omega), Scheduler.mem_novel]
      refine ⟨List.mem_filter.2 ⟨(site.leadsTo_iff rule e.url url).1 hlink, ?_⟩, hknown⟩
      rw [hnew]
      rfl

/-- The end of a visit makes no batch an earlier one. -/
theorem takeIn (h : s.Lagging site start done) (horderly : s.Orderly) (rule : Rule) {i : Nat}
    {e : Entry} (hget : s.pending[i]? = some e) :
    (s.takeIn i e ((Outcome.ofVisit site rule e.url).without s.scheduler.visited)).Lagging
      site start done := by
  have he : e ∈ s.pending := List.mem_of_getElem? hget
  have hlength : 0 < s.agenda.length := by
    obtain ⟨hlt, -⟩ := List.getElem?_eq_some_iff.1 h.first
    exact hlt
  refine
    { first := ?_
      pending := ?_
      closed := ?_
      parent := h.parent
      waiting := ?_
      late := ?_ }
  · rw [agenda_takeIn, List.getElem?_append_left hlength]
    exact h.first
  · rw [pending_takeIn, dispatched_takeIn]
    exact fun f hf => h.pending (List.mem_of_mem_eraseIdx hf)
  · rw [dispatched_takeIn, limits_takeIn, pending_takeIn]
    intro g hg hvisited hmax url hlink
    by_cases hpending : g ∈ s.pending
    · obtain ⟨j, hj⟩ := List.mem_iff_getElem?.1 hpending
      obtain rfl : j = i := by
        by_contra hne
        exact hvisited (List.mem_eraseIdx_iff_getElem?.2 ⟨j, hne, hj⟩)
      obtain rfl : g = e := Option.some.inj (hj.symm.trans hget)
      exact mem_agenda_takeIn horderly rule j hmax hlink
    · rw [agenda_takeIn, List.map_append]
      exact List.mem_append_left _ (h.closed g hg hpending hmax url hlink)
  · rw [dispatched_takeIn, frontier_takeIn]
    intro f hf hdepth
    rcases List.mem_append.1 hf with hold | hnew
    · exact h.waiting f hold hdepth
    · exact ⟨e, horderly.mem_dispatched_of_pending hget, (mem_found hnew).1.symm⟩
  · rw [agenda_takeIn]
    intro j f hf k url hchain hdeep
    by_cases hold : j < s.agenda.length
    · rw [List.getElem?_append_left hold] at hf
      rw [List.take_append_of_le_length (Nat.le_of_lt hold)]
      exact h.late j f hf k url hchain hdeep
    · rw [List.getElem?_append_right (Nat.not_lt.1 hold)] at hf
      have hfound := mem_found (List.mem_of_getElem? hf)
      have hmem := h.mem_agenda_of_chain horderly he (by omega) hchain (by omega)
      rw [List.take_append, List.take_of_length_le (Nat.not_lt.1 hold), List.map_append]
      exact List.mem_append_left _ hmem

/-! ## The end of a run -/

section Ended

variable (h : s.Lagging site start done) (horderly : s.Orderly) (hpending : s.pending = [])
  (hempty : s.scheduler.frontier = [])

include h horderly hpending hempty

/-- A link of a page above the depth limit was followed. -/
theorem contains_of_leadsTo {e : Entry} (he : e ∈ s.agenda)
    (hmax : e.depth < s.scheduler.limits.maxDepth) {url : String}
    (hlink : site.LeadsTo e.url url) : s.scheduler.visited.contains url = true := by
  have hout : e ∈ s.dispatched := by
    rw [agenda, hempty, List.append_nil] at he
    exact he
  have hvisited : e ∉ s.pending := by
    rw [hpending]
    exact List.not_mem_nil
  rw [horderly.contains_visited_iff hempty]
  exact h.closed e hout hvisited hmax url hlink

/-- A page about half as far away as the depth limit was found above the limit. -/
theorem covers_half :
    s.Covers site start
      (min s.scheduler.limits.maxDepth (s.scheduler.limits.maxDepth / 2 + 1)) := by
  intro d hd url hchain
  induction hchain with
  | start =>
      rw [horderly.contains_visited_iff hempty]
      exact List.mem_map_of_mem (List.mem_of_getElem? h.first)
  | @link d page url hpage hlink ih =>
      have hvisited := (horderly.contains_visited_iff hempty page).1 (ih (by omega))
      obtain ⟨e, he, rfl⟩ := List.mem_map.1 hvisited
      have hle := h.depth_le horderly he hpage
      exact h.contains_of_leadsTo horderly hpending hempty he (by omega) hlink

/-- What is missed lies behind pages handed out at the depth limit though they are nearer. -/
theorem covers_iff :
    s.Covers site start s.scheduler.limits.maxDepth ↔
      ∀ e ∈ s.dispatched, e.depth = s.scheduler.limits.maxDepth →
        ∀ d < s.scheduler.limits.maxDepth, site.Chain start d e.url →
          ∀ url, site.LeadsTo e.url url → s.scheduler.visited.contains url = true := by
  constructor
  · intro hcovers e _ _ d hd hchain url hlink
    exact hcovers (d + 1) hd url (.link hchain hlink)
  · intro hlimit d hd url hchain
    induction hchain with
    | start =>
        rw [horderly.contains_visited_iff hempty]
        exact List.mem_map_of_mem (List.mem_of_getElem? h.first)
    | @link d page url hpage hlink ih =>
        have hvisited := (horderly.contains_visited_iff hempty page).1 (ih (by omega))
        obtain ⟨e, he, rfl⟩ := List.mem_map.1 hvisited
        rcases Nat.lt_or_eq_of_le (horderly.shallow e he) with habove | hat
        · exact h.contains_of_leadsTo horderly hpending hempty he habove hlink
        · rw [agenda, hempty, List.append_nil] at he
          exact hlimit e he hat d (by omega) hpage url hlink

end Ended

end Lagging

/-- A run lags in whatever order visits end. -/
theorem exists_lagging_run (site : Site) (rule : Rule) (start : Url) (limits : Limits)
    (order : Order) :
    ∃ done, ((new start limits).run site rule order).Lagging site start.written done := by
  refine run_induction (P := fun s => ∃ done, s.Lagging site start.written done)
    ⟨0, .new site start limits⟩ ?_ ?_
  · rintro s hreached hpending ⟨done, hlagging⟩
    exact ⟨_, hlagging.dispatch hreached.orderly hpending⟩
  · rintro s e hreached hget ⟨done, hlagging⟩
    exact ⟨done, hlagging.takeIn hreached.orderly rule hget⟩

/-- Where no page waits any more, every page about half as far away as the depth limit was visited,
in whatever order visits end. All pages within the limit were visited if and only if no page found
too late leads to one that was missed: a page handed out at the limit, though a shorter chain leads
there, whose links were dropped. When visits end in turn there is no such page. -/
theorem covers_of_frontier_eq_nil (site : Site) (rule : Rule) (start : Url) (limits : Limits)
    (order : Order)
    (hempty : ((new start limits).run site rule order).scheduler.frontier = []) :
    let s := (new start limits).run site rule order
    s.Covers site start.written (min limits.maxDepth (limits.maxDepth / 2 + 1)) ∧
      (s.Covers site start.written limits.maxDepth ↔
        ∀ e ∈ s.dispatched, e.depth = limits.maxDepth →
          ∀ d < limits.maxDepth, site.Chain start.written d e.url →
            ∀ url, site.LeadsTo e.url url → s.scheduler.visited.contains url = true) ∧
      (order.IsInTurn limits → s.Covers site start.written limits.maxDepth) := by
  intro s
  have hreached : Reached site rule start limits s := reached_run site rule start limits order
  have horderly := hreached.orderly
  have hpending : s.pending = [] := pending_run site rule order _
  obtain ⟨done, hlagging⟩ := exists_lagging_run site rule start limits order
  have hhalf := hlagging.covers_half horderly hpending hempty
  have hiff := hlagging.covers_iff horderly hpending hempty
  rw [hreached.limits_eq] at hhalf hiff
  refine ⟨hhalf, hiff, fun hturn d hd url hchain => ?_⟩
  obtain ⟨x, hfollows, hbreadth⟩ := exists_breadth_run site rule start limits hturn
  rw [horderly.contains_visited_iff hempty, agenda, hempty, List.append_nil]
  refine hfollows.mem_dispatched_of_chain hpending hbreadth hchain hd fun e he => ?_
  rw [hempty] at he
  exact absurd he List.not_mem_nil

/-! ## The detour in reverse -/

/-- Visits end in the reverse order of that in which they began. -/
def inReverse : Order :=
  fun s => s.pending.length - 1

/-- In reverse the detour is gone by way of the longer chain: `e` is found by `d`, at the depth
limit, before `c` finds it one level above. -/
theorem run_detour_inReverse :
    let s := (new detourHome ⟨100, 3, 2⟩).run detour (.oneOf []) inReverse
    s.scheduler.frontier = [] ∧
      s.dispatched =
        [⟨"http://[::1]/", 0⟩, ⟨"http://[::1]/?a", 1⟩, ⟨"http://[::1]/?b", 1⟩,
          ⟨"http://[::1]/?c", 1⟩, ⟨"http://[::1]/?d", 2⟩, ⟨"http://[::1]/?e", 3⟩] := by
  have hcourse :
      let s := course detour (.oneOf []) inReverse 12 (new detourHome ⟨100, 3, 2⟩)
      s.isFinished = true ∧ s.scheduler.frontier = [] ∧
        s.dispatched =
          [⟨"http://[::1]/", 0⟩, ⟨"http://[::1]/?a", 1⟩, ⟨"http://[::1]/?b", 1⟩,
            ⟨"http://[::1]/?c", 1⟩, ⟨"http://[::1]/?d", 2⟩, ⟨"http://[::1]/?e", 3⟩] := by
    decide +kernel
  rw [run_eq_course 12 hcourse.1]
  exact hcourse.2

theorem chain_detour : detour.Chain detourHome.written 3 "http://[::1]/?f" := by
  have hhome : detourHome.written = "http://[::1]/" := by decide +kernel
  have hc : detour.LeadsTo "http://[::1]/" "http://[::1]/?c" := ⟨_, rfl, by decide +kernel⟩
  have he : detour.LeadsTo "http://[::1]/?c" "http://[::1]/?e" := ⟨_, rfl, by decide +kernel⟩
  have hf : detour.LeadsTo "http://[::1]/?e" "http://[::1]/?f" := ⟨_, rfl, by decide +kernel⟩
  rw [hhome]
  exact .link (.link (.link .start hc) he) hf

/-- In reverse no page of the detour waits in the end, and yet `f` was not visited, which lies three
links away. -/
theorem not_covers_detour_inReverse :
    let s := (new detourHome ⟨100, 3, 2⟩).run detour (.oneOf []) inReverse
    s.scheduler.frontier = [] ∧ ¬s.Covers detour detourHome.written 3 := by
  intro s
  obtain ⟨hempty, hdispatched⟩ := run_detour_inReverse
  have hreached : Reached detour (.oneOf []) detourHome ⟨100, 3, 2⟩ s :=
    reached_run detour (.oneOf []) detourHome ⟨100, 3, 2⟩ inReverse
  refine ⟨hempty, fun hcovers => ?_⟩
  have hvisited := hcovers 3 (Nat.le_refl 3) _ chain_detour
  rw [hreached.orderly.contains_visited_iff hempty, agenda, hempty, hdispatched] at hvisited
  exact absurd hvisited (by decide)

/-- Two links from the start nothing is missed in reverse either. -/
theorem covers_two_detour_inReverse :
    ((new detourHome ⟨100, 3, 2⟩).run detour (.oneOf []) inReverse).Covers
      detour detourHome.written 2 :=
  (covers_of_frontier_eq_nil detour (.oneOf []) detourHome ⟨100, 3, 2⟩ inReverse
    run_detour_inReverse.1).1

end Prospector.Session
