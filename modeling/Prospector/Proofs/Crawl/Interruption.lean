import Prospector.Proofs.Crawl.Parts

/-!
# Crawls that are interrupted and go on

An interruption costs a crawl the pages that are being visited, and nothing else. Beside a crawl
that was interrupted and goes on stands another one that is not interrupted, on a site where just
these pages cannot be fetched. Such a page brings neither a classification nor links, so the end of
its visit changes no more than the tally: the two crawls hand out the same pages and take in the
same outcomes, only that the second one ends its visits to the lost pages where the first one
forgets them.

## Main definitions

* `Site.failing` : a site on which some of its pages cannot be fetched.
* `Session.Twins` : whether two crawls agree but for the pages that one of them has lost.

## Main results

* `Session.Twins.unfolds` : crawls that agree go on so, if they take in outcomes in the same order.
* `Session.Unfolds.exists_takesInOrder` : there is a run that fails where a crawl is interrupted.
* `Session.resumed_as_failed` : an interruption is a failure of the pages being visited.
-/

namespace Prospector

/-! ## Sites with lost pages -/

/-- A site on which the pages at some addresses cannot be fetched. -/
def Site.failing (site : Site) (lost : List String) (fault : String → FetchFault) : Site :=
  fun url => if lost.contains url then .failed (fault url) else site url

/-- A lost page brings nothing but its state. -/
theorem Site.ofVisit_failing_of_mem (site : Site) (rule : Rule) {lost : List String}
    (fault : String → FetchFault) {url : String} (h : url ∈ lost) :
    Outcome.ofVisit (site.failing lost fault) rule url = { state := (fault url).state } := by
  rw [Outcome.ofVisit, Site.failing, if_pos (List.contains_iff_mem.2 h)]
  rfl

/-- Every other page brings what it brings on the whole site. -/
theorem Site.ofVisit_failing_of_not_mem (site : Site) (rule : Rule) {lost : List String}
    (fault : String → FetchFault) {url : String} (h : url ∉ lost) :
    Outcome.ofVisit (site.failing lost fault) rule url = Outcome.ofVisit site rule url := by
  rw [Outcome.ofVisit, Site.failing, if_neg (fun hc => h (List.contains_iff_mem.1 hc))]
  rfl

namespace Session

/-- The end of the visit of a lost page changes the tally only. -/
theorem settle_failing (site : Site) (rule : Rule) {lost : List String}
    (fault : String → FetchFault) {s : Session} {i : Nat} {e : Entry}
    (hget : s.pending[i]? = some e) (he : e.url ∈ lost) :
    s.settle (site.failing lost fault) rule i =
      { s with
        pending := s.pending.eraseIdx i
        tally := s.tally.record (fault e.url).state } := by
  have hnone : ∀ scheduler : Scheduler, scheduler.enqueueLinks e.depth [] = (0, scheduler) := by
    intro scheduler
    unfold Scheduler.enqueueLinks
    split <;> simp
  rw [settle_of_some _ rule hget, site.ofVisit_failing_of_mem rule fault he]
  simp only [takeIn, record, Outcome.without, List.filter_nil, hnone, Nat.add_zero]

/-! ## Crawls that agree -/

theorem Orderly.nodup_pending {s : Session} (h : s.Orderly) : s.pending.Nodup :=
  (h.nodup_dispatched.sublist (h.pending.map Entry.url)).of_map

/-- A crawl `t` agrees with a crawl `s` but for lost pages: `t` may be visiting them where `s` has
forgotten them, and it has counted those that have `failed` already. -/
structure Twins (lost : List String) (fault : String → FetchFault) (failed : List Entry)
    (s t : Session) : Prop where
  scheduler : t.scheduler = s.scheduler
  history : t.history = s.history
  findings : t.findings = s.findings
  linksEnqueued : t.linksEnqueued = s.linksEnqueued
  pending : ∀ e : Entry, e.url ∉ lost → (e ∈ t.pending ↔ e ∈ s.pending)
  count : ∀ state, t.tally.count state =
    s.tally.count state + failed.countP fun e => (fault e.url).state = state

namespace Twins

variable {lost : List String} {fault : String → FetchFault} {failed : List Entry} {s t : Session}

theorem refl (lost : List String) (fault : String → FetchFault) (s : Session) :
    s.Twins lost fault [] s where
  scheduler := rfl
  history := rfl
  findings := rfl
  linksEnqueued := rfl
  pending := fun _ _ => Iff.rfl
  count := fun _ => rfl

/-- Where one crawl visits no page, the other one visits lost pages only. -/
theorem lost_of_pending_eq_nil (h : s.Twins lost fault failed t) (hnone : t.pending = []) :
    ∀ e ∈ s.pending, e.url ∈ lost := by
  intro e he
  by_contra hlost
  have hmem := (h.pending e hlost).2 he
  rw [hnone] at hmem
  exact absurd hmem List.not_mem_nil

/-- Lost pages may be forgotten. -/
theorem interrupt (h : s.Twins lost fault failed t) (hlost : ∀ e ∈ s.pending, e.url ∈ lost) :
    s.interrupt.Twins lost fault failed t where
  scheduler := h.scheduler
  history := h.history
  findings := h.findings
  linksEnqueued := h.linksEnqueued
  pending := by
    intro e he
    rw [h.pending e he]
    exact ⟨fun hmem => absurd (hlost e hmem) he, fun hmem => absurd hmem List.not_mem_nil⟩
  count := h.count

/-- Crawls that agree hand out the same batch. -/
theorem dispatch (h : s.Twins lost fault failed t) :
    s.dispatch.Twins lost fault failed t.dispatch where
  scheduler := by simp only [Session.dispatch, h.scheduler]
  history := by simp only [Session.dispatch, h.scheduler, h.history]
  findings := h.findings
  linksEnqueued := h.linksEnqueued
  pending := by
    intro e _
    simp only [Session.dispatch, h.scheduler]
  count := h.count

theorem mem_eraseIdx {pending : List Entry} (hnodup : pending.Nodup) {i : Nat} {e : Entry}
    (hget : pending[i]? = some e) (f : Entry) :
    f ∈ pending.eraseIdx i ↔ f ≠ e ∧ f ∈ pending := by
  obtain ⟨hlt, rfl⟩ := List.getElem?_eq_some_iff.1 hget
  rw [← hnodup.erase_getElem i hlt, hnodup.mem_erase_iff]

/-- Crawls that agree take in the same outcome of a page. -/
theorem takeIn (h : s.Twins lost fault failed t) (hs : s.pending.Nodup) (ht : t.pending.Nodup)
    {i j : Nat} {e : Entry} (hi : s.pending[i]? = some e) (hj : t.pending[j]? = some e)
    (o : Outcome) : (s.takeIn i e o).Twins lost fault failed (t.takeIn j e o) where
  scheduler := by simp only [Session.takeIn, record, h.scheduler]
  history := h.history
  findings := by simp only [Session.takeIn, record, h.findings]
  linksEnqueued := by simp only [Session.takeIn, record, h.scheduler, h.linksEnqueued]
  pending := by
    intro f hf
    rw [pending_takeIn, pending_takeIn, mem_eraseIdx ht hj, mem_eraseIdx hs hi, h.pending f hf]
  count := by
    intro state
    show (t.tally.record o.state).count state = (s.tally.record o.state).count state + _
    by_cases hstate : o.state = state
    · rw [hstate, Tally.count_record_self, Tally.count_record_self, h.count state]
      omega
    · rw [Tally.count_record_of_ne _ hstate, Tally.count_record_of_ne _ hstate, h.count state]

/-- The end of the visit of a lost page leaves crawls in agreement. -/
theorem lose (h : s.Twins lost fault failed t) (site : Site) (rule : Rule)
    (ht : t.pending.Nodup) {j : Nat} {e : Entry} (hj : t.pending[j]? = some e)
    (he : e.url ∈ lost) :
    s.Twins lost fault (failed ++ [e]) (t.settle (site.failing lost fault) rule j) := by
  rw [settle_failing site rule fault hj he]
  exact
    { h with
      pending := by
        intro f hf
        rw [mem_eraseIdx ht hj, h.pending f hf]
        refine ⟨And.right, fun hmem => ⟨?_, hmem⟩⟩
        rintro rfl
        exact hf he
      count := by
        intro state
        show (t.tally.record (fault e.url).state).count state = _
        rw [List.countP_append, List.countP_singleton]
        by_cases hstate : (fault e.url).state = state
        · rw [hstate, Tally.count_record_self, h.count state]
          simp only [decide_true, if_true]
          omega
        · rw [Tally.count_record_of_ne _ hstate, h.count state]
          simp only [hstate, decide_false, Bool.false_eq_true, if_false]
          omega }

end Twins

namespace Unfolds

variable {site : Site} {rule : Rule} {lost : List String} {s t : Session} {ended gone : List Entry}

/-- A crawl with nothing to hand out that takes in no outcome can only forget pages. -/
theorem eq_interrupt (h : Unfolds site rule s ended gone t) (hended : ended = [])
    (hclosed : s.scheduler.isFinished = true) (ht : t.isFinished = true) : t = s.interrupt := by
  induction h with
  | refl s => exact (interrupt_of_pending_eq_nil (pending_eq_nil_of_isFinished ht)).symm
  | dispatch _ hopen _ _ =>
      rw [hclosed] at hopen
      cases hopen
  | settle _ _ _ => cases hended
  | interrupt _ ih => exact ih hended hclosed ht

/-- Before the next batch is handed out no more can happen to a crawl that visits lost pages only
than that it forgets them. -/
theorem exists_dispatch (h : Unfolds site rule s ended gone t)
    (hopen : s.scheduler.isFinished = false) (ht : t.isFinished = true)
    (hpending : ∀ e ∈ s.pending, e.url ∈ lost) (hended : ∀ e ∈ ended, e.url ∉ lost) :
    ∃ rest ⊆ gone, Unfolds site rule s.interrupt.dispatch ended rest t := by
  induction h with
  | refl s =>
      rw [scheduler_isFinished_of_isFinished ht] at hopen
      cases hopen
  | @dispatch s t ended gone hnone _ hrest _ =>
      refine ⟨gone, List.Subset.refl _, ?_⟩
      rw [interrupt_of_pending_eq_nil hnone]
      exact hrest
  | @settle s t ended gone i e hget _ _ =>
      exact absurd (hpending e (List.mem_of_getElem? hget)) (hended e List.mem_cons_self)
  | @interrupt s t ended gone _ ih =>
      obtain ⟨rest, hrest, hunfolds⟩ :=
        ih hopen ht (fun e he => absurd he List.not_mem_nil) hended
      exact ⟨rest, List.subset_append_of_subset_right _ hrest, hunfolds⟩

/-- If the next outcome is that of a page being visited, it can be taken in at once. -/
theorem exists_settle {e : Entry} (h : Unfolds site rule s (e :: ended) gone t)
    (hmem : e ∈ s.pending) (hgone : e ∉ gone) :
    ∃ i, s.pending[i]? = some e ∧ Unfolds site rule (s.settle site rule i) ended gone t := by
  cases h with
  | dispatch hnone _ _ =>
      rw [hnone] at hmem
      exact absurd hmem List.not_mem_nil
  | settle hget hrest => exact ⟨_, hget, hrest⟩
  | interrupt _ => exact absurd (List.mem_append_left _ hmem) hgone

end Unfolds

/-- Crawls that agree go on so, one of them losing pages and the other one failing to fetch them, if
they take in all other outcomes in the same order. -/
theorem Twins.unfolds {site : Site} {rule : Rule} {lost : List String}
    {fault : String → FetchFault} {s' t t' : Session} {ended' gone' : List Entry}
    (h : Unfolds (site.failing lost fault) rule t ended' gone' t') (hgone' : gone' = [])
    (ht' : t'.isFinished = true) (hs' : s'.isFinished = true) :
    ∀ {s : Session} {ended gone failed : List Entry}, s.Orderly → t.Orderly →
      s.Twins lost fault failed t → Unfolds site rule s ended gone s' →
      (∀ e ∈ gone, e.url ∈ lost) → ended = ended'.filter (fun e => !lost.contains e.url) →
      s'.Twins lost fault (failed ++ ended'.filter fun e => lost.contains e.url) t' := by
  induction h with
  | refl t =>
      intro s ended gone failed _ _ htwins hunfolds _ hended
      have hnone := pending_eq_nil_of_isFinished ht'
      have hclosed := scheduler_isFinished_of_isFinished ht'
      rw [htwins.scheduler] at hclosed
      rw [hunfolds.eq_interrupt hended hclosed hs', List.filter_nil, List.append_nil]
      exact htwins.interrupt (htwins.lost_of_pending_eq_nil hnone)
  | @dispatch t t' ended' gone' hnone hopen _ ih =>
      intro s ended gone failed hs ht htwins hunfolds hgone hended
      have hpending := htwins.lost_of_pending_eq_nil hnone
      have hkept : ∀ e ∈ ended, e.url ∉ lost := by
        intro e he
        rw [hended] at he
        simpa using (List.mem_filter.1 he).2
      rw [htwins.scheduler] at hopen
      obtain ⟨rest, hrest, hnext⟩ := hunfolds.exists_dispatch hopen hs' hpending hkept
      exact ih hgone' ht' hs.interrupt.dispatch ht.dispatch (htwins.interrupt hpending).dispatch
        hnext (fun e he => hgone e (hrest he)) hended
  | @settle t t' ended' gone' j e hj _ ih =>
      intro s ended gone failed hs ht htwins hunfolds hgone hended
      rw [settle_of_some _ rule hj] at ih
      by_cases he : e.url ∈ lost
      · have hfailed := htwins.lose site rule ht.nodup_pending hj he
        rw [List.filter_cons_of_neg (by simp [he])] at hended
        rw [List.filter_cons_of_pos (by simp [he]), List.append_cons]
        rw [settle_of_some _ rule hj] at hfailed
        exact ih hgone' ht' hs (ht.takeIn _ _ _) hfailed hunfolds hgone hended
      · have hmem : e ∈ s.pending := (htwins.pending e he).1 (List.mem_of_getElem? hj)
        rw [List.filter_cons_of_pos (by simp [he])] at hended
        rw [List.filter_cons_of_neg (by simp [he])]
        subst hended
        obtain ⟨i, hi, hrest⟩ := hunfolds.exists_settle hmem fun hin => he (hgone e hin)
        rw [settle_of_some site rule hi] at hrest
        rw [site.ofVisit_failing_of_not_mem rule fault he, htwins.scheduler] at ih
        exact ih hgone' ht' (hs.takeIn _ _ _) (ht.takeIn _ _ _)
          (htwins.takeIn hs.nodup_pending ht.nodup_pending hi hj _) hrest hgone rfl
  | @interrupt t t' ended' gone' _ ih =>
      intro s ended gone failed hs ht htwins hunfolds hgone hended
      obtain ⟨hnone, hrest⟩ := List.append_eq_nil_iff.1 hgone'
      rw [interrupt_of_pending_eq_nil hnone] at ih
      exact ih hrest ht' hs ht htwins hunfolds hgone hended

/-! ## The crawl that fails where another one is interrupted -/

section Failing

variable {site : Site} {rule : Rule} {lost : List String} {s t u : Session}
  {ended later gone : List Entry}

/-- Where no lost page is met, the site with lost pages makes no difference. -/
theorem Unfolds.exists_failing (h : Unfolds site rule s ended gone t) (hgone : gone = [])
    (fault : String → FetchFault) (hended : ∀ e ∈ ended, e.url ∉ lost) (tally : Tally) :
    ∃ tally', Unfolds (site.failing lost fault) rule { s with tally := tally } ended []
      { t with tally := tally' } := by
  induction h generalizing tally with
  | refl s => exact ⟨tally, .refl _⟩
  | @dispatch s t ended gone hpending hopen _ ih =>
      obtain ⟨tally', hrest⟩ := ih hgone hended tally
      exact ⟨tally', .dispatch hpending hopen hrest⟩
  | @settle s t ended gone i e hget _ ih =>
      have he : e.url ∉ lost := hended e List.mem_cons_self
      have hrest := ih hgone fun f hf => hended f (List.mem_cons_of_mem _ hf)
      rw [settle_of_some site rule hget] at hrest
      obtain ⟨tally', hrest⟩ := hrest (tally.record (Outcome.ofVisit site rule e.url).state)
      refine ⟨tally', .settle hget ?_⟩
      have hget' : ({ s with tally := tally } : Session).pending[i]? = some e := hget
      rw [settle_of_some _ rule hget', site.ofVisit_failing_of_not_mem rule fault he]
      exact hrest
  | @interrupt s t ended gone _ ih =>
      obtain ⟨hpending, hrest⟩ := List.append_eq_nil_iff.1 hgone
      rw [interrupt_of_pending_eq_nil hpending] at ih
      exact ih hrest hended tally

/-- Lost pages fail one after the other, and then none is being visited. -/
theorem exists_unfolds_lost (site : Site) (rule : Rule) (fault : String → FetchFault)
    (s : Session) (hpending : ∀ e ∈ s.pending, e.url ∈ lost) :
    ∃ tally', Unfolds (site.failing lost fault) rule s s.pending []
      { s.interrupt with tally := tally' } := by
  obtain ⟨start, scheduler, findings, tally, links, pending, history⟩ := s
  induction pending generalizing tally with
  | nil => exact ⟨tally, .refl _⟩
  | cons e pending ih =>
      obtain ⟨tally', hrest⟩ := ih (tally.record (fault e.url).state) fun f hf =>
        hpending f (List.mem_cons_of_mem e hf)
      refine ⟨tally', .settle (i := 0) rfl ?_⟩
      rw [settle_failing site rule fault rfl (hpending e List.mem_cons_self)]
      exact hrest

/-- Pages whose visits go on when a crawl is interrupted can fail at that point. -/
theorem Unfolds.exists_failed (h : Unfolds site rule s ended [] u)
    (h' : Unfolds site rule u.interrupt later [] t) (fault : String → FetchFault)
    (hended : ∀ e ∈ ended, e.url ∉ lost) (hlater : ∀ e ∈ later, e.url ∉ lost)
    (hpending : ∀ e ∈ u.pending, e.url ∈ lost) :
    ∃ tally', Unfolds (site.failing lost fault) rule s (ended ++ (u.pending ++ later)) []
      { t with tally := tally' } := by
  obtain ⟨tally₁, hbefore⟩ := h.exists_failing rfl fault hended s.tally
  obtain ⟨tally₂, hlost⟩ :=
    exists_unfolds_lost site rule fault { u with tally := tally₁ } hpending
  obtain ⟨tally₃, hafter⟩ := h'.exists_failing rfl fault hlater tally₂
  exact ⟨tally₃, hbefore.trans (hlost.trans hafter)⟩

end Failing

/-! ## Interruptions as failures -/

/-- The addresses of the pages in flight when a run stops: those that were handed out and whose
visits have not ended. -/
def inFlight (site : Site) (rule : Rule) (order : Order) (stop : Session → Bool) (s : Session) :
    List String :=
  ((s.runUntil site rule order stop).2.dispatched.filter fun e =>
    !(s.recorded site rule order stop).contains e).map Entry.url

/-- Whether a run takes in outcomes in the order of the pages `log`, those of lost pages left
out. -/
def TakesInOrder (site : Site) (rule : Rule) (order : Order) (lost : List String)
    (log : List Entry) (s : Session) : Prop :=
  (s.recorded site rule order fun _ => false).filter (fun e => !lost.contains e.url) = log

/-- Where a run stops, the pages in flight are those being visited, and no page has ended that is in
flight, because no page is handed out twice. -/
theorem exists_unfolds_inFlight (site : Site) (rule : Rule) (order : Order)
    (stop : Session → Bool) {s : Session} (hs : s.Orderly) (hnew : s.dispatched = []) :
    ∃ t : Session, Unfolds site rule s (s.recorded site rule order stop) [] t ∧
      (s.runUntil site rule order stop).2 = t.interrupt ∧
      (∀ url, url ∈ s.inFlight site rule order stop ↔ url ∈ t.pending.map Entry.url) ∧
      ∀ e ∈ s.recorded site rule order stop, e.url ∉ s.inFlight site rule order stop := by
  obtain ⟨t, hunfolds, hend⟩ := exists_unfolds_runUntil site rule order stop s
  have hcut : (s.runUntil site rule order stop).2 = t.interrupt := by
    rcases hend with ⟨hfinished, hrun⟩ | ⟨-, hrun⟩
    · rw [hrun, interrupt_of_pending_eq_nil (pending_eq_nil_of_isFinished hfinished)]
    · rw [hrun]
  have hperm := hunfolds.perm_dispatched hs hnew
  have hnodup := (hperm.map Entry.url).nodup_iff.2 (hunfolds.orderly hs).nodup_dispatched
  rw [List.map_append] at hnodup
  have hdisjoint := (List.nodup_append.1 hnodup).2.2
  have hmem : ∀ e, e ∈ t.dispatched.filter (fun e =>
      !(s.recorded site rule order stop).contains e) ↔ e ∈ t.pending := by
    intro e
    rw [List.mem_filter, ← hperm.mem_iff, List.mem_append, Bool.not_eq_true', ← Bool.not_eq_true,
      List.contains_iff_mem]
    constructor
    · exact fun h => h.1.resolve_left h.2
    · exact fun h => ⟨.inr h, fun he =>
        hdisjoint _ (List.mem_map_of_mem he) _ (List.mem_map_of_mem h) rfl⟩
  have hflight : ∀ url, url ∈ s.inFlight site rule order stop ↔ url ∈ t.pending.map Entry.url := by
    intro url
    unfold inFlight
    rw [hcut, show t.interrupt.dispatched = t.dispatched from rfl]
    simp only [List.mem_map, hmem]
  refine ⟨t, hunfolds, hcut, hflight, fun e he hlost => ?_⟩
  exact hdisjoint _ (List.mem_map_of_mem he) _ ((hflight e.url).1 hlost) rfl

/-- Of pages that each occur once, those at some of their addresses occur once each. -/
theorem perm_map_url_filter {ended dispatched : List Entry} {lost : List String}
    (h : (ended.map Entry.url).Perm (dispatched.map Entry.url))
    (hdispatched : (dispatched.map Entry.url).Nodup) (hlost : lost.Nodup)
    (hsub : lost ⊆ dispatched.map Entry.url) :
    ((ended.filter fun e => lost.contains e.url).map Entry.url).Perm lost := by
  have hfilter : ((ended.filter fun e => lost.contains e.url).map Entry.url) =
      (ended.map Entry.url).filter lost.contains := by
    rw [List.filter_map]
    rfl
  rw [hfilter, List.perm_ext_iff_of_nodup ((h.nodup_iff.2 hdispatched).filter _) hlost]
  intro url
  rw [List.mem_filter, List.contains_iff_mem, h.mem_iff]
  exact ⟨And.right, fun hurl => ⟨hsub hurl, hurl⟩⟩

/-- There is a run on the site with lost pages that fails to fetch them where a crawl is
interrupted, and takes in all other outcomes in the order of that crawl. -/
theorem Unfolds.exists_takesInOrder {site : Site} {rule : Rule} {lost : List String}
    {s t u : Session} {ended later : List Entry} (h : Unfolds site rule s ended [] u)
    (h' : Unfolds site rule u.interrupt later [] t) (ht : t.isFinished = true)
    (fault : String → FetchFault) (hended : ∀ e ∈ ended, e.url ∉ lost)
    (hlater : ∀ e ∈ later, e.url ∉ lost) (hpending : ∀ e ∈ u.pending, e.url ∈ lost) :
    ∃ order, s.TakesInOrder (site.failing lost fault) rule order lost (ended ++ later) := by
  obtain ⟨tally, hfailed⟩ := h.exists_failed h' fault hended hlater hpending
  obtain ⟨order, -, hrecorded⟩ := hfailed.exists_order rfl ht
  have hself : ∀ l : List Entry, (∀ e ∈ l, e.url ∉ lost) →
      l.filter (fun e => !lost.contains e.url) = l := by
    intro l hl
    rw [List.filter_eq_self]
    simpa using hl
  have hnone : u.pending.filter (fun e => !lost.contains e.url) = [] := by
    rw [List.filter_eq_nil_iff]
    simpa using hpending
  refine ⟨order, ?_⟩
  rw [TakesInOrder, hrecorded, List.filter_append, List.filter_append, hself _ hended,
    hself _ hlater, hnone, List.nil_append]

/-- An interruption is a failure of the pages in flight. Let a crawl be run until it is interrupted
at any point, and then be run again to its end. Beside it stand the runs that are not interrupted,
on the site where just the pages in flight at that point cannot be fetched, whatever the faults, and
that take in all other outcomes in the same order; there are such runs. Each of them ends with the
same pages handed out in the same order, the same pages visited, the same findings and as many new
links, and its tally counts the lost pages in addition. The findings at the interruption stay as
they are, and no page in flight is handed out again. -/
theorem resumed_as_failed (site : Site) (rule : Rule) (start : Url) (limits : Limits)
    (before after : Order) (stop : Session → Bool) (fault : String → FetchFault) :
    let first := new start limits
    let cut := (first.runUntil site rule before stop).2
    let final := cut.run site rule after
    let lost := first.inFlight site rule before stop
    let failing := site.failing lost fault
    let log := first.recorded site rule before stop ++ cut.recorded site rule after fun _ => false
    (∃ order, first.TakesInOrder failing rule order lost log) ∧
      (∀ order, first.TakesInOrder failing rule order lost log →
        let whole := first.run failing rule order
        whole.dispatched = final.dispatched ∧
          whole.scheduler.visited = final.scheduler.visited ∧
          whole.findings = final.findings ∧
          whole.linksEnqueued = final.linksEnqueued ∧
          ∀ state, whole.tally.count state =
            final.tally.count state + lost.countP fun url => (fault url).state = state) ∧
      (∀ url f, cut.findings.find? url = some f → final.findings.find? url = some f) ∧
      ∃ later, final.dispatched = cut.dispatched ++ later ∧ ∀ e ∈ later, e.url ∉ lost := by
  intro first cut final lost failing log
  have hfirst : first.Orderly := Orderly.new start limits
  obtain ⟨u, hearly, hstop, hflight, hended⟩ :=
    exists_unfolds_inFlight site rule before stop hfirst rfl
  have hcut : cut = u.interrupt := hstop
  have hu : u.Orderly := hearly.orderly hfirst
  have hlate : Unfolds site rule u.interrupt (cut.recorded site rule after fun _ => false) []
      final := hcut ▸ unfolds_run site rule after cut
  have hfinal : final.isFinished = true := isFinished_run site rule after cut
  obtain ⟨later, hdispatched, hperm⟩ := hlate.exists_perm hu.interrupt
  rw [pending_eq_nil_of_isFinished hfinal, List.append_nil, List.append_nil] at hperm
  have hnodup := (hlate.orderly hu.interrupt).nodup_dispatched
  have hpending : ∀ e ∈ u.pending, e.url ∈ lost := fun e he =>
    (hflight e.url).2 (List.mem_map_of_mem he)
  have hlost : lost ⊆ u.dispatched.map Entry.url := fun url hurl =>
    (hu.pending.map Entry.url).subset ((hflight url).1 hurl)
  have hfresh : ∀ e ∈ later, e.url ∉ lost := by
    intro e he hmem
    rw [hdispatched, List.map_append] at hnodup
    exact (List.nodup_append.1 hnodup).2.2 _ (hlost hmem) _ (List.mem_map_of_mem he) rfl
  refine ⟨?_, ?_, ?_, later, ?_, hfresh⟩
  · exact hearly.exists_takesInOrder hlate hfinal fault hended
      (fun e he => hfresh e (hperm.mem_iff.1 he)) hpending
  · intro order horder whole
    have hwhole := unfolds_run failing rule order first
    have htwins := Twins.unfolds hwhole rfl (isFinished_run failing rule order first) hfinal
      hfirst hfirst (Twins.refl lost fault first) (hearly.trans hlate.interrupt)
      (by simpa using hpending) horder.symm
    have hsame : whole.dispatched = final.dispatched := by
      rw [dispatched, htwins.history, dispatched]
    have hall := hwhole.perm_dispatched hfirst rfl
    rw [pending_run, List.append_nil] at hall
    have hsub : lost.Sublist (cut.dispatched.map Entry.url) := List.filter_sublist.map Entry.url
    rw [hcut] at hsub
    have hfailed := perm_map_url_filter (hall.map Entry.url)
      (by rw [show whole.dispatched = _ from hsame]; exact hnodup)
      (hu.nodup_dispatched.sublist hsub)
      (by
        rw [show whole.dispatched = _ from hsame, hdispatched, List.map_append]
        exact fun url hurl => List.mem_append_left _ (hlost hurl))
    refine ⟨hsame, congrArg Scheduler.visited htwins.scheduler, htwins.findings,
      htwins.linksEnqueued, fun state => ?_⟩
    rw [htwins.count state, List.nil_append, ← hfailed.countP_eq, List.countP_map]
    rfl
  · intro url f hfound
    have hcutReached : Reached site rule start limits cut := Reached.new.runUntil before stop
    have hfinalReached : Reached site rule start limits final := hcutReached.runUntil after _
    rw [Findings.find?_eq_some_iff hcutReached.sorted_findings] at hfound
    rw [Findings.find?_eq_some_iff hfinalReached.sorted_findings]
    exact (unfolds_run site rule after cut).findings_subset hfound
  · rw [hdispatched, hcut]

/-! ## The detour with an interruption -/

/-- Interrupted after two visits the detour is in flight with `a` alone. The crawl goes on without
it and reaches the last page by way of `c`, as does a crawl to which `a` does not answer. -/
theorem resumed_as_failed_detour :
    let first := new detourHome ⟨100, 3, 2⟩
    let twice := fun s : Session => s.tally.total == 2
    let cut := (first.runUntil detour (.oneOf []) inReverse twice).2
    let final := cut.run detour (.oneOf []) inTurn
    let lost := first.inFlight detour (.oneOf []) inReverse twice
    let failing := detour.failing lost fun _ => .timeout
    lost = ["http://[::1]/?a"] ∧
      final.dispatched.getLast? = some ⟨"http://[::1]/?f", 3⟩ ∧
      ∃ order, first.TakesInOrder failing (.oneOf []) order lost
          (first.recorded detour (.oneOf []) inReverse twice ++
            cut.recorded detour (.oneOf []) inTurn fun _ => false) ∧
        (first.run failing (.oneOf []) order).dispatched = final.dispatched ∧
        (first.run failing (.oneOf []) order).tally.count .unreachable =
          final.tally.count .unreachable + 1 := by
  intro first twice cut final lost failing
  have hpursue : let found := pursue detour (.oneOf []) inReverse twice 5 first
      (found.2.isFinished || twice found.2) = true ∧
        ((found.2.interrupt.dispatched.filter fun e => !found.1.contains e).map Entry.url) =
          ["http://[::1]/?a"] ∧
        (course detour (.oneOf []) inTurn 12 found.2.interrupt).isFinished = true ∧
        (course detour (.oneOf []) inTurn 12 found.2.interrupt).dispatched.getLast? =
          some ⟨"http://[::1]/?f", 3⟩ := by
    decide +kernel
  obtain ⟨hend, hlost, hfinished, hlast⟩ := hpursue
  obtain ⟨hrecorded, hcut⟩ := recorded_eq_pursue 5 hend
  have hflight : lost = ["http://[::1]/?a"] := by
    rw [← hlost, ← hrecorded, ← hcut]
    rfl
  obtain ⟨⟨order, horder⟩, hwhole, -, -⟩ :=
    resumed_as_failed detour (.oneOf []) detourHome ⟨100, 3, 2⟩ inReverse inTurn twice
      fun _ => .timeout
  obtain ⟨hsame, -, -, -, hcount⟩ := hwhole order horder
  refine ⟨hflight, ?_, order, horder, hsame, ?_⟩
  · rw [show final = cut.run detour (.oneOf []) inTurn from rfl, show cut = _ from hcut,
      run_eq_course 12 hfinished]
    exact hlast
  · have hone : lost.countP (fun _ => FetchFault.timeout.state = .unreachable) = 1 := by
      rw [hflight]
      rfl
    exact (hcount .unreachable).trans (congrArg (final.tally.count .unreachable + ·) hone)

end Session

end Prospector
