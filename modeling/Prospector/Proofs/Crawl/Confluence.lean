import Mathlib.Data.Finset.Card
import Mathlib.Data.List.Perm.Basic
import Mathlib.Data.String.Basic
import Prospector.Proofs.Crawl.Coverage

/-!
# Confluence

What a crawl brings if no bound cuts it short. Suppose that links lead from the start to finitely
many pages and that neither the quota nor the depth limit is below their number. A page found comes
later on the agenda than the page that found it, so its depth is less than the number of pages and
the depth limit drops nothing. The crawl then visits exactly these pages, and all that its report
says depends on the set of pages alone: not on the number of workers, and not on the order in which
visits end.

## Main definitions

* `Site.Reaches` : whether links lead from one page to another, however many.
* `Site.finding?` : what a crawl finds out about a page.
* `Report.Agrees` : whether two reports say the same.

## Main results

* `Session.Reached.depth_le_index`, `Session.Reached.linksEnqueued_eq` : depths and new links,
  counted on the agenda.
* `Session.Tallied.takeIn`, `Session.Tallied.dispatch` : each move of a run adds to its counters
  what the pages that ended bring.
* `Session.confluent_of_finite` : the report of a crawl that no bound cuts short.
-/

namespace Prospector

/-! ## Findings -/

namespace Findings

/-- Findings are not displaced by others. -/
theorem mem_insertNew_of_mem (url : String) (f : Finding) {found : List (String × Finding)}
    {m : String × Finding} (h : m ∈ found) : m ∈ insertNew url f found := by
  fun_induction insertNew url f found with
  | case1 => exact absurd h List.not_mem_nil
  | case2 => exact h
  | case3 => exact List.mem_cons_of_mem _ h
  | case4 u g rest _ _ ih =>
      rcases List.mem_cons.1 h with rfl | hrest
      · exact List.mem_cons_self
      · exact List.mem_cons_of_mem _ (ih hrest)

/-- A new address takes its place among findings. -/
theorem mem_insertNew_iff {url : String} (f : Finding) {found : List (String × Finding)}
    (hnew : url ∉ found.map Prod.fst) (m : String × Finding) :
    m ∈ insertNew url f found ↔ m = (url, f) ∨ m ∈ found := by
  refine ⟨mem_insertNew, ?_⟩
  rintro (rfl | hm)
  · fun_induction insertNew url f found with
    | case1 => exact List.mem_cons_self
    | case2 => exact absurd List.mem_cons_self hnew
    | case3 => exact List.mem_cons_self
    | case4 u g rest _ _ ih =>
        rw [List.map_cons, List.mem_cons, not_or] at hnew
        exact List.mem_cons_of_mem _ (ih hnew.2)
  · exact mem_insertNew_of_mem url f hm

/-- Findings stay in ascending order of their addresses. -/
theorem pairwise_insertNew (url : String) (f : Finding) {found : List (String × Finding)}
    (h : found.Pairwise fun m n => m.1 < n.1) :
    (insertNew url f found).Pairwise fun m n => m.1 < n.1 := by
  fun_induction insertNew url f found with
  | case1 => exact List.pairwise_singleton _ _
  | case2 => exact h
  | case3 u g rest _ hlt =>
      rw [List.pairwise_cons]
      refine ⟨fun n hn => ?_, h⟩
      rcases List.mem_cons.1 hn with rfl | hrest
      · exact hlt
      · exact lt_trans hlt ((List.pairwise_cons.1 h).1 n hrest)
  | case4 u g rest hne hnlt ih =>
      rw [List.pairwise_cons] at h ⊢
      refine ⟨fun n hn => ?_, ih h.2⟩
      rcases mem_insertNew hn with rfl | hrest
      · exact lt_of_le_of_ne (not_lt.1 hnlt) (Ne.symm hne)
      · exact h.1 n hrest

/-- In ascending order the finding for an address is the one that stands there. -/
theorem find?_eq_some_iff {fs : Findings} (h : fs.byUrl.Pairwise fun m n => m.1 < n.1)
    (url : String) (f : Finding) : fs.find? url = some f ↔ (url, f) ∈ fs.byUrl := by
  obtain ⟨found⟩ := fs
  show found.lookup url = some f ↔ (url, f) ∈ found
  induction found with
  | nil => simp
  | cons m rest ih =>
      obtain ⟨u, g⟩ := m
      rw [List.pairwise_cons] at h
      rw [List.lookup_cons, List.mem_cons]
      by_cases heq : url = u
      · subst heq
        have hrest : (url, f) ∉ rest := fun hmem => lt_irrefl url (h.1 _ hmem)
        simp [hrest, eq_comm]
      · have hbeq : (url == u) = false := beq_false_of_ne heq
        simp [hbeq, heq, ih h.2]

/-- Findings in ascending order are determined by what is found under each address. -/
theorem eq_of_find?_eq {fs gs : Findings} (hfs : fs.byUrl.Pairwise fun m n => m.1 < n.1)
    (hgs : gs.byUrl.Pairwise fun m n => m.1 < n.1)
    (h : ∀ url f, fs.find? url = some f ↔ gs.find? url = some f) : fs = gs := by
  have hnodup : ∀ {l : List (String × Finding)}, (l.Pairwise fun m n => m.1 < n.1) → l.Nodup :=
    fun hl => hl.imp fun {m n} hlt heq => by
      subst heq
      exact lt_irrefl m.1 hlt
  have hperm : fs.byUrl.Perm gs.byUrl := by
    rw [List.perm_ext_iff_of_nodup (hnodup hfs) (hnodup hgs)]
    rintro ⟨url, f⟩
    rw [← find?_eq_some_iff hfs, ← find?_eq_some_iff hgs]
    exact h url f
  have heq : fs.byUrl = gs.byUrl :=
    hperm.eq_of_pairwise (fun m n _ _ hmn hnm => absurd hmn (lt_asymm hnm)) hfs hgs
  cases fs
  cases gs
  exact congrArg Findings.mk heq

end Findings

/-- Whether links lead from one page to another, however many. -/
def Site.Reaches (site : Site) (start url : String) : Prop :=
  ∃ d, site.Chain start d url

/-- What a crawl finds out about a page: its classification, if it can be fetched and has one. -/
def Site.finding? (site : Site) (rule : Rule) (url : String) : Option Finding :=
  (Outcome.ofVisit site rule url).classification.map .ofClassification

theorem Site.finding?_eq_some_iff (site : Site) (rule : Rule) (url : String) (f : Finding) :
    site.finding? rule url = some f ↔
      ∃ text c, site url = .page text ∧ (rule.classify (Html.document text)).value = some c ∧
        f = .ofClassification c := by
  unfold Site.finding? Outcome.ofVisit
  cases hsite : site url with
  | page text =>
      simp only [Outcome.ofFetched, Outcome.ofDocument, Option.map_eq_some_iff, Fetched.page.injEq]
      constructor
      · rintro ⟨c, hc, rfl⟩
        exact ⟨text, c, rfl, hc, rfl⟩
      · rintro ⟨_, c, rfl, hc, rfl⟩
        exact ⟨c, hc, rfl⟩
  | failed fault => simp [Outcome.ofFetched]

/-- Whether two reports say the same. Of the states in which pages ended a report shows how many
pages ended in each. -/
structure Report.Agrees (r t : Report) : Prop where
  start : r.start = t.start
  findings : r.findings = t.findings
  visited : r.statistics.visited = t.statistics.visited
  classified : r.statistics.classified = t.statistics.classified
  linksEnqueued : r.statistics.linksEnqueued = t.statistics.linksEnqueued
  count : ∀ state, r.statistics.tally.count state = t.statistics.tally.count state

namespace Session

/-! ## Positions on the agenda -/

section Reached

variable {site : Site} {rule : Rule} {start : Url} {limits : Limits} {s : Session}

/-- A page is no deeper than there are pages before it on the agenda. -/
theorem Reached.depth_le_index (h : Reached site rule start limits s) :
    ∀ (i : Nat) (e : Entry), s.agenda[i]? = some e → e.depth ≤ i := by
  induction h with
  | new =>
      intro i e hget
      rw [List.mem_singleton.1 (List.mem_of_getElem? hget)]
      exact Nat.zero_le i
  | dispatch hreached _ ih =>
      rw [agenda_dispatch hreached.orderly]
      exact ih
  | @takeIn s i e o hreached hpending _ ih =>
      intro j f hget
      rw [agenda_takeIn] at hget
      by_cases hold : j < s.agenda.length
      · rw [List.getElem?_append_left hold] at hget
        exact ih j f hget
      · -- The page that found `f` stands before all that it found.
        rw [List.getElem?_append_right (Nat.not_lt.1 hold)] at hget
        have he : e ∈ s.agenda :=
          List.mem_append_left _ (hreached.orderly.mem_dispatched_of_pending hpending)
        obtain ⟨k, hk⟩ := List.mem_iff_getElem?.1 he
        obtain ⟨hlt, -⟩ := List.getElem?_eq_some_iff.1 hk
        have hdepth := ih k e hk
        rw [(mem_found (List.mem_of_getElem? hget)).1]
        omega
  | interrupt _ ih => exact ih

/-- Every page on the agenda but the first one was a new link. -/
theorem Reached.linksEnqueued_eq (h : Reached site rule start limits s) :
    s.linksEnqueued + 1 = s.agenda.length := by
  induction h with
  | new => rfl
  | @dispatch s hreached _ ih =>
      rw [agenda_dispatch hreached.orderly, dispatch_eq hreached.orderly]
      exact ih
  | takeIn _ _ _ ih =>
      rw [linksEnqueued_takeIn, agenda_takeIn, List.length_append, found, List.length_map]
      omega
  | interrupt _ ih => exact ih

/-- The agenda holds no more pages than links lead to from the start. -/
theorem Reached.length_agenda_le (h : Reached site rule start limits s) {pages : Finset String}
    (hpages : ∀ url, url ∈ pages ↔ site.Reaches start.written url) :
    s.agenda.length ≤ pages.card := by
  have hsub : (s.agenda.map Entry.url).toFinset ⊆ pages := by
    intro url hmem
    obtain ⟨e, he, rfl⟩ := List.mem_map.1 (List.mem_toFinset.1 hmem)
    exact (hpages e.url).2 ⟨e.depth, h.chain e he⟩
  have hcard := Finset.card_le_card hsub
  rwa [List.toFinset_card_of_nodup h.orderly.distinct, List.length_map] at hcard

/-- The findings of a crawl are in ascending order of their addresses. -/
theorem Reached.sorted_findings (h : Reached site rule start limits s) :
    s.findings.byUrl.Pairwise fun m n => m.1 < n.1 := by
  induction h with
  | new => exact List.Pairwise.nil
  | dispatch _ _ ih => exact ih
  | takeIn _ _ _ ih =>
      rw [findings_takeIn]
      split
      · exact Findings.pairwise_insertNew _ _ ih
      · exact ih
  | interrupt _ ih => exact ih

end Reached

/-! ## What the pages that ended bring -/

/-- The counters of a crawl say what the pages `ended` bring, the last one first; the pages handed
out are these and those being visited. -/
structure Tallied (site : Site) (rule : Rule) (ended : List Entry) (s : Session) : Prop where
  split : (ended ++ s.pending).Perm s.dispatched
  states : s.tally.states = ended.map fun e => (Outcome.ofVisit site rule e.url).state
  sorted : s.findings.byUrl.Pairwise fun m n => m.1 < n.1
  findings : ∀ url f, (url, f) ∈ s.findings.byUrl ↔
    url ∈ ended.map Entry.url ∧ site.finding? rule url = some f

namespace Tallied

variable {site : Site} {rule : Rule} {ended : List Entry} {s : Session}

theorem new (site : Site) (rule : Rule) (start : Url) (limits : Limits) :
    (Session.new start limits).Tallied site rule [] where
  split := .refl _
  states := rfl
  sorted := .nil
  findings := by
    intro url f
    exact ⟨fun h => absurd h List.not_mem_nil, fun h => absurd h.1 List.not_mem_nil⟩

/-- Handing out a batch counts nothing. -/
theorem dispatch (h : s.Tallied site rule ended) (horderly : s.Orderly)
    (hpending : s.pending = []) :
    s.dispatch.Tallied site rule ended where
  split := by
    have hsplit := h.split
    rw [hpending, List.append_nil] at hsplit
    rw [pending_dispatch horderly, dispatched_dispatch horderly]
    exact hsplit.append_right s.batch
  states := by
    rw [dispatch_eq horderly]
    exact h.states
  sorted := by
    rw [dispatch_eq horderly]
    exact h.sorted
  findings := by
    rw [dispatch_eq horderly]
    exact h.findings

/-- A page whose visit ends was not counted before. -/
theorem url_not_mem (h : s.Tallied site rule ended) (horderly : s.Orderly) {i : Nat} {e : Entry}
    (hget : s.pending[i]? = some e) : e.url ∉ ended.map Entry.url := by
  have hnodup := (h.split.map Entry.url).nodup_iff.2 horderly.nodup_dispatched
  rw [List.map_append] at hnodup
  have hmem : e.url ∈ s.pending.map Entry.url := List.mem_map_of_mem (List.mem_of_getElem? hget)
  exact fun hended => (List.nodup_append.1 hnodup).2.2 _ hended _ hmem rfl

/-- The end of a visit counts what the page brings. -/
theorem takeIn (h : s.Tallied site rule ended) (horderly : s.Orderly) {i : Nat} {e : Entry}
    (hget : s.pending[i]? = some e) :
    (s.takeIn i e ((Outcome.ofVisit site rule e.url).without s.scheduler.visited)).Tallied
      site rule (e :: ended) where
  split := by
    obtain ⟨hlt, rfl⟩ := List.getElem?_eq_some_iff.1 hget
    rw [pending_takeIn, dispatched_takeIn]
    have hmove := (List.getElem_cons_eraseIdx_perm hlt).append_left ended
    exact (List.perm_middle.symm.trans hmove).trans h.split
  states := by
    rw [List.map_cons, ← h.states]
    rfl
  sorted := by
    rw [findings_takeIn, Outcome.classification_without]
    split
    · exact Findings.pairwise_insertNew _ _ h.sorted
    · exact h.sorted
  findings := by
    intro url f
    have hnew := h.url_not_mem horderly hget
    rw [findings_takeIn, Outcome.classification_without, List.map_cons, List.mem_cons, or_and_right]
    cases hc : (Outcome.ofVisit site rule e.url).classification with
    | none =>
        have hnone : site.finding? rule e.url = none := by
          rw [Site.finding?, hc]
          rfl
        rw [h.findings url f]
        refine ⟨.inr, fun hor => hor.resolve_left ?_⟩
        rintro ⟨rfl, hsome⟩
        exact nomatch hnone.symm.trans hsome
    | some c =>
        have hsome : site.finding? rule e.url = some (.ofClassification c) := by
          rw [Site.finding?, hc]
          rfl
        have hfresh : e.url ∉ s.findings.byUrl.map Prod.fst := by
          intro hmem
          obtain ⟨⟨u, g⟩, hm, rfl⟩ := List.mem_map.1 hmem
          exact hnew ((h.findings _ g).1 hm).1
        show (url, f) ∈ Findings.insertNew e.url (.ofClassification c) s.findings.byUrl ↔ _
        rw [Findings.mem_insertNew_iff _ hfresh, h.findings url f, Prod.mk.injEq]
        refine or_congr_left ⟨?_, ?_⟩
        · rintro ⟨rfl, rfl⟩
          exact ⟨rfl, hsome⟩
        · rintro ⟨rfl, hf⟩
          exact ⟨rfl, Option.some.inj (hf.symm.trans hsome)⟩

end Tallied

/-- A run counts what the pages that it handed out bring. -/
theorem exists_tallied_run (site : Site) (rule : Rule) (start : Url) (limits : Limits)
    (order : Order) :
    ∃ ended, ((new start limits).run site rule order).Tallied site rule ended := by
  refine run_induction (P := fun s => ∃ ended, s.Tallied site rule ended)
    ⟨[], .new site rule start limits⟩ ?_ ?_
  · rintro s hreached hpending ⟨ended, htallied⟩
    exact ⟨ended, htallied.dispatch hreached.orderly hpending⟩
  · rintro s e hreached hget ⟨ended, htallied⟩
    exact ⟨e :: ended, htallied.takeIn hreached.orderly hget⟩

/-! ## Crawls that no bound cuts short -/

section Unbounded

variable {site : Site} (rule : Rule) {start : Url} {limits : Limits} {pages : Finset String}
  (hpages : ∀ url, url ∈ pages ↔ site.Reaches start.written url)
  (hquota : pages.card ≤ limits.maxPages) (hdepth : pages.card ≤ limits.maxDepth)

include hpages hquota

/-- Such a crawl leaves no page waiting: the quota is not used up before all pages are visited. -/
theorem frontier_run_eq_nil (order : Order) :
    ((new start limits).run site rule order).scheduler.frontier = [] := by
  have hreached : Reached site rule start limits _ := reached_run site rule start limits order
  rcases frontier_run_eq_nil_or site rule order (new start limits) with hempty | hfull
  · exact hempty
  · have hlength := hreached.length_agenda_le hpages
    rw [Scheduler.quotaReached, decide_eq_true_eq, hreached.limits_eq,
      hreached.orderly.size_visited] at hfull
    rw [agenda, List.length_append] at hlength
    exact List.eq_nil_of_length_eq_zero (by omega)

include hdepth

/-- Such a crawl visits all pages that links lead to, because none of them is found at the depth
limit. -/
theorem toFinset_visited_run (order : Order) :
    ((new start limits).run site rule order).scheduler.visited.urls.toFinset = pages := by
  have hreached : Reached site rule start limits ((new start limits).run site rule order) :=
    reached_run site rule start limits order
  have hempty := frontier_run_eq_nil rule hpages hquota order
  generalize hs : (new start limits).run site rule order = s at hreached hempty ⊢
  have horderly := hreached.orderly
  have hpending : s.pending = [] := hs ▸ pending_run site rule order _
  obtain ⟨done, hlagging⟩ := exists_lagging_run site rule start limits order
  rw [hs] at hlagging
  have hmem : ∀ url, url ∈ s.scheduler.visited.urls ↔ url ∈ s.agenda.map Entry.url := by
    intro url
    rw [horderly.mem_visited, agenda, hempty, List.append_nil]
  ext url
  rw [List.mem_toFinset, hmem, hpages]
  constructor
  · intro hagenda
    obtain ⟨e, he, rfl⟩ := List.mem_map.1 hagenda
    exact ⟨e.depth, hreached.chain e he⟩
  · rintro ⟨d, hchain⟩
    induction hchain with
    | start => exact List.mem_map_of_mem (List.mem_of_getElem? hlagging.first)
    | @link d page url _ hlink ih =>
        obtain ⟨e, he, rfl⟩ := List.mem_map.1 ih
        obtain ⟨i, hget⟩ := List.mem_iff_getElem?.1 he
        obtain ⟨hlt, -⟩ := List.getElem?_eq_some_iff.1 hget
        have hindex := hreached.depth_le_index i e hget
        have hlength := hreached.length_agenda_le hpages
        have hmax : e.depth < s.scheduler.limits.maxDepth := by
          rw [hreached.limits_eq]
          omega
        have hvisited := hlagging.contains_of_leadsTo horderly hpending hempty he hmax hlink
        rw [← hmem, ← List.contains_iff_mem]
        exact hvisited

end Unbounded

/-- A crawl whose report is that of a set of pages. -/
structure Exhausts (site : Site) (rule : Rule) (pages : Finset String) (s : Session) : Prop where
  visited : s.scheduler.visited.urls.toFinset = pages
  size_visited : s.scheduler.visited.size = pages.card
  linksEnqueued : s.linksEnqueued = pages.card - 1
  sorted : s.findings.byUrl.Pairwise fun m n => m.1 < n.1
  find?_eq_some_iff : ∀ url f, s.findings.find? url = some f ↔
    url ∈ pages ∧ site.finding? rule url = some f
  count : ∀ state, s.tally.count state =
    (pages.filter fun url => (Outcome.ofVisit site rule url).state = state).card

/-- The reports of two crawls from one start agree if they are those of one set of pages. -/
theorem Exhausts.agrees {site : Site} {rule : Rule} {pages : Finset String} {s t : Session}
    (hs : s.Exhausts site rule pages) (ht : t.Exhausts site rule pages)
    (hstart : s.start = t.start) :
    s.report.Agrees t.report := by
  have hfindings : s.findings = t.findings := by
    refine Findings.eq_of_find?_eq hs.sorted ht.sorted fun url f => ?_
    rw [hs.find?_eq_some_iff, ht.find?_eq_some_iff]
  exact
    { start := hstart
      findings := hfindings
      visited := hs.size_visited.trans ht.size_visited.symm
      classified := congrArg Findings.size hfindings
      linksEnqueued := hs.linksEnqueued.trans ht.linksEnqueued.symm
      count := fun state => (hs.count state).trans (ht.count state).symm }

/-- When all pages handed out have ended, a tally counts each of them once. -/
theorem Tallied.count_eq {site : Site} {rule : Rule} {ended : List Entry} {s : Session}
    (h : s.Tallied site rule ended) (hnodup : (ended.map Entry.url).Nodup) (state : PageState) :
    s.tally.count state = ((ended.map Entry.url).toFinset.filter fun url =>
      (Outcome.ofVisit site rule url).state = state).card := by
  have hfilter : ((ended.map Entry.url).toFinset.filter fun url =>
      (Outcome.ofVisit site rule url).state = state) =
        ((ended.map Entry.url).filter fun url =>
          (Outcome.ofVisit site rule url).state == state).toFinset := by
    simp [List.toFinset_filter]
  rw [hfilter, List.toFinset_card_of_nodup (hnodup.filter _), ← List.countP_eq_length_filter,
    List.countP_map, Tally.count, h.states, List.count_eq_countP, List.countP_map]
  rfl

/-- A crawl that no bound cuts short exhausts the pages that links lead to. -/
theorem exhausts_run {site : Site} {rule : Rule} {start : Url} {pages : Finset String}
    (hpages : ∀ url, url ∈ pages ↔ site.Reaches start.written url) {limits : Limits}
    (hquota : pages.card ≤ limits.maxPages) (hdepth : pages.card ≤ limits.maxDepth)
    (order : Order) : ((new start limits).run site rule order).Exhausts site rule pages := by
  have hreached : Reached site rule start limits ((new start limits).run site rule order) :=
    reached_run site rule start limits order
  have hvisited := toFinset_visited_run rule hpages hquota hdepth order
  have hempty := frontier_run_eq_nil rule hpages hquota order
  have hpending := pending_run site rule order (new start limits)
  obtain ⟨ended, htallied⟩ := exists_tallied_run site rule start limits order
  generalize (new start limits).run site rule order = s at *
  have horderly := hreached.orderly
  have hperm : (ended.map Entry.url).Perm (s.dispatched.map Entry.url) := by
    have hsplit := htallied.split
    rw [hpending, List.append_nil] at hsplit
    exact hsplit.map Entry.url
  have hnodup : (ended.map Entry.url).Nodup := hperm.nodup_iff.2 horderly.nodup_dispatched
  have hended : (ended.map Entry.url).toFinset = pages := by
    rw [← hvisited, List.toFinset_eq_of_perm _ _ hperm]
    ext url
    rw [List.mem_toFinset, List.mem_toFinset, horderly.mem_visited]
  have hsize : s.scheduler.visited.size = pages.card := by
    rw [horderly.size_visited, ← hended, List.toFinset_card_of_nodup hnodup, hperm.length_eq,
      List.length_map]
  exact
    { visited := hvisited
      size_visited := hsize
      linksEnqueued := by
        have hlinks := hreached.linksEnqueued_eq
        rw [agenda, hempty, List.append_nil, ← horderly.size_visited, hsize] at hlinks
        omega
      sorted := htallied.sorted
      find?_eq_some_iff := by
        intro url f
        rw [Findings.find?_eq_some_iff htallied.sorted, htallied.findings, ← hended,
          List.mem_toFinset]
      count := by
        intro state
        rw [htallied.count_eq hnodup, hended] }

/-- Let links lead from the start to finitely many pages, and let neither the quota nor the depth
limit be below their number. Then a crawl visits exactly these pages, whatever its number of workers
and the order in which visits end. It finds for each page the classification that the page has if
it can be fetched; every page but the start was a new link once; and of the states that its tally
counts, each page has contributed its own. So all such crawls end with reports that agree. -/
theorem confluent_of_finite (site : Site) (rule : Rule) (start : Url) (pages : Finset String)
    (hpages : ∀ url, url ∈ pages ↔ site.Reaches start.written url) (limits : Limits)
    (hquota : pages.card ≤ limits.maxPages) (hdepth : pages.card ≤ limits.maxDepth)
    (order : Order) :
    let s := (new start limits).run site rule order
    s.scheduler.visited.urls.toFinset = pages ∧
      (∀ url f, s.findings.find? url = some f ↔ url ∈ pages ∧
        ∃ text c, site url = .page text ∧ (rule.classify (Html.document text)).value = some c ∧
          f = .ofClassification c) ∧
      s.linksEnqueued = pages.card - 1 ∧
      (∀ state, s.tally.count state =
        (pages.filter fun url => (Outcome.ofVisit site rule url).state = state).card) ∧
      ∀ limits' order', pages.card ≤ limits'.maxPages → pages.card ≤ limits'.maxDepth →
        s.report.Agrees ((new start limits').run site rule order').report := by
  intro s
  have hexhausts : s.Exhausts site rule pages := exhausts_run hpages hquota hdepth order
  refine ⟨hexhausts.visited, ?_, hexhausts.linksEnqueued, hexhausts.count, ?_⟩
  · intro url f
    rw [hexhausts.find?_eq_some_iff, Site.finding?_eq_some_iff]
  · intro limits' order' hquota' hdepth'
    have hstart : ∀ limits order, ((new start limits).run site rule order).start = start.written :=
      fun limits order => (reached_run site rule start limits order).start_eq
    exact hexhausts.agrees (exhausts_run hpages hquota' hdepth' order')
      ((hstart limits order).trans (hstart limits' order').symm)

/-- The pages that links of the detour lead to. -/
def detourPages : Finset String :=
  {"http://[::1]/", "http://[::1]/?a", "http://[::1]/?b", "http://[::1]/?c", "http://[::1]/?d",
    "http://[::1]/?e", "http://[::1]/?f"}

theorem mem_detourPages (url : String) :
    url ∈ detourPages ↔ detour.Reaches detourHome.written url := by
  have hhome : detourHome.written = "http://[::1]/" := by decide +kernel
  have hleads : ∀ page url, url ∈ (Outcome.ofVisit detour (.oneOf []) page).links →
      detour.LeadsTo page url := fun page url => (detour.leadsTo_iff (.oneOf []) page url).2
  rw [hhome]
  constructor
  · have ha := hleads "http://[::1]/" "http://[::1]/?a" (by decide +kernel)
    have hb := hleads "http://[::1]/" "http://[::1]/?b" (by decide +kernel)
    have hc := hleads "http://[::1]/" "http://[::1]/?c" (by decide +kernel)
    have hd := hleads "http://[::1]/?a" "http://[::1]/?d" (by decide +kernel)
    have he := hleads "http://[::1]/?c" "http://[::1]/?e" (by decide +kernel)
    have hf := hleads "http://[::1]/?e" "http://[::1]/?f" (by decide +kernel)
    simp only [detourPages, Finset.mem_insert, Finset.mem_singleton]
    rintro (rfl | rfl | rfl | rfl | rfl | rfl | rfl)
    · exact ⟨0, .start⟩
    · exact ⟨1, .link .start ha⟩
    · exact ⟨1, .link .start hb⟩
    · exact ⟨1, .link .start hc⟩
    · exact ⟨2, .link (.link .start ha) hd⟩
    · exact ⟨2, .link (.link .start hc) he⟩
    · exact ⟨3, .link (.link (.link .start hc) he) hf⟩
  · -- No link of these pages leads elsewhere.
    have hclosed : ∀ page ∈ detourPages,
        ∀ url ∈ (Outcome.ofVisit detour (.oneOf []) page).links, url ∈ detourPages := by
      decide +kernel
    rintro ⟨d, hchain⟩
    induction hchain with
    | start => decide
    | link _ hlink ih => exact hclosed _ ih _ ((detour.leadsTo_iff (.oneOf []) _ _).1 hlink)

/-- With two workers and in reverse the detour is visited as with one worker and in turn, if no
bound cuts it short: six new links, and two pages that are gone. -/
theorem confluent_detour_inReverse :
    let s := (new detourHome ⟨7, 7, 2⟩).run detour (.oneOf []) inReverse
    s.linksEnqueued = 6 ∧ s.tally.count .deadLink = 2 ∧
      s.report.Agrees ((new detourHome ⟨100, 9, 1⟩).run detour (.oneOf []) inTurn).report := by
  intro s
  have hcard : detourPages.card = 7 := by decide +kernel
  have hconfluent := confluent_of_finite detour (.oneOf []) detourHome detourPages mem_detourPages
    ⟨7, 7, 2⟩ (Nat.le_of_eq hcard) (Nat.le_of_eq hcard) inReverse
  have hdead : (detourPages.filter fun url =>
      (Outcome.ofVisit detour (.oneOf []) url).state = .deadLink).card = 2 := by decide +kernel
  obtain ⟨-, -, hlinks, hcount, hagrees⟩ := hconfluent
  rw [hcard] at hlinks hagrees
  exact ⟨hlinks, (hcount .deadLink).trans hdead, hagrees ⟨100, 9, 1⟩ inTurn (by decide) (by decide)⟩

end Session

end Prospector
