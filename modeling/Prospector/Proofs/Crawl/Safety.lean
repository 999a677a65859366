import Prospector.Crawl.Pool
import Prospector.Crawl.Reach
import Prospector.Proofs.Crawl.Agenda

/-!
# Safety of crawls

What no course of a crawl can break: pages are handed out once, the bounds hold at every moment,
each page handed out is reached from the start by as many links as its depth says, and each finding
is the classification of a page that was fetched.

The bound on the pages in flight is the one fact that does not follow from the crawl alone. After
an interruption workers may still be visiting abandoned pages while the next batch is handed out,
so it is kept by the workers: whoever begins a visit takes a free one.

## Main results

* `Session.Reached.chain` : depths are lengths of chains of links.
* `Session.Reached.findings` : findings are classifications of pages handed out.
* `Pool.busy_le` : the workers bound the pages in flight.
* `Pool.safe_after_replay` : all of it, whatever happens to a crawl and its workers.
* `Pool.exists_replay` : the workers allow every course of a crawl.
-/

namespace Prospector.Session

section Safety

variable {site : Site} {rule : Rule} {start : Url} {limits : Limits} {s : Session}

/-! ## Depths -/

theorem Brings.leadsTo {visited : VisitedSet} {page url : String} {o : Outcome}
    (h : Brings site rule visited page o) (hlink : url ∈ o.links) : site.LeadsTo page url := by
  cases h with
  | visit => exact (site.leadsTo_iff rule page url).2 (List.mem_filter.1 hlink).1
  | breakdown => exact absurd hlink List.not_mem_nil

/-- A page on the agenda can be reached by as many links as its depth says. -/
theorem Reached.chain (h : Reached site rule start limits s) :
    ∀ e ∈ s.agenda, site.Chain start.written e.depth e.url := by
  induction h with
  | new =>
      intro e he
      rw [List.mem_singleton.1 he]
      exact .start
  | dispatch hreached _ ih =>
      rw [agenda_dispatch hreached.orderly]
      exact ih
  | @takeIn s i e o hreached hpending hbrings ih =>
      intro f hf
      rw [agenda_takeIn] at hf
      rcases List.mem_append.1 hf with hold | hnew
      · exact ih f hold
      · have hfound := mem_found hnew
        have he : e ∈ s.agenda :=
          List.mem_append_left _ (hreached.orderly.mem_dispatched_of_pending hpending)
        rw [hfound.1]
        exact .link (ih e he) (hbrings.leadsTo hfound.2.2.1)
  | interrupt _ ih => exact ih

/-! ## Findings -/

/-- A classification was made of the page as it was fetched. -/
theorem Brings.classified {visited : VisitedSet} {page : String} {o : Outcome} {c : Classification}
    (h : Brings site rule visited page o) (hc : o.classification = some c) :
    ∃ text, site page = .page text ∧ (rule.classify (Html.document text)).value = some c := by
  cases h with
  | breakdown => exact nomatch hc
  | visit =>
      rw [Outcome.classification_without, Outcome.ofVisit] at hc
      cases hsite : site page with
      | page text =>
          rw [hsite] at hc
          exact ⟨text, rfl, hc⟩
      | failed fault =>
          rw [hsite] at hc
          exact nomatch hc

theorem findings_takeIn (s : Session) (i : Nat) (e : Entry) (o : Outcome) :
    (s.takeIn i e o).findings =
      match o.classification with
      | some c => s.findings.add e.url (.ofClassification c)
      | none => s.findings := rfl

/-- A finding is made of the classification of a page that was handed out and fetched. -/
theorem Reached.findings (h : Reached site rule start limits s) :
    ∀ url f, (url, f) ∈ s.findings.byUrl →
      (∃ e ∈ s.dispatched, e.url = url) ∧
        ∃ text c, site url = .page text ∧ (rule.classify (Html.document text)).value = some c ∧
          f = .ofClassification c := by
  induction h with
  | new =>
      intro url f hf
      exact absurd hf List.not_mem_nil
  | @dispatch s hreached _ ih =>
      intro url f hf
      obtain ⟨⟨e, he, hurl⟩, hpage⟩ := ih url f hf
      refine ⟨⟨e, ?_, hurl⟩, hpage⟩
      rw [dispatched_dispatch hreached.orderly]
      exact List.mem_append_left _ he
  | @takeIn s i e o hreached hpending hbrings ih =>
      intro url f hf
      rw [findings_takeIn] at hf
      cases hc : o.classification with
      | none =>
          rw [hc] at hf
          exact ih url f hf
      | some c =>
          rw [hc] at hf
          rcases Findings.mem_add hf with hnew | hold
          · obtain ⟨rfl, rfl⟩ := Prod.mk.inj hnew
            obtain ⟨text, hpage, hclass⟩ := hbrings.classified hc
            exact ⟨⟨e, hreached.orderly.mem_dispatched_of_pending hpending, rfl⟩,
              text, c, hpage, hclass, rfl⟩
          · exact ih url f hold
  | interrupt _ ih => exact ih

end Safety

end Prospector.Session

namespace Prospector.Pool

variable {site : Site} {rule : Rule} {start : Url} {limits : Limits}

/-! ## Workers and the crawl -/

/-- What happens to the workers leaves the crawl as it is or is something that can happen to it. -/
theorem session_perform (site : Site) (rule : Rule) (p : Pool) (m : Move) :
    (p.perform site rule m).session = p.session ∨
      ∃ move, (p.perform site rule m).session = p.session.perform site rule move := by
  cases m with
  | dispatch =>
      by_cases hpending : p.session.pending.isEmpty = true
      · exact .inr ⟨.dispatch, by simp only [perform, if_pos hpending]⟩
      · exact .inl (by simp only [perform, if_neg hpending])
  | visit i =>
      refine .inl ?_
      simp only [perform]
      split <;> rfl
  | finish i =>
      refine .inl ?_
      simp only [perform]
      split <;> rfl
  | settle i =>
      by_cases hready : p.isReady i = true
      · exact .inr ⟨.settle i, by simp only [perform, if_pos hready]⟩
      · exact .inl (by simp only [perform, if_neg hready])
  | crash i =>
      by_cases hready : p.isReady i = true
      · exact .inr ⟨.crash i, by simp only [perform, if_pos hready]⟩
      · exact .inl (by simp only [perform, if_neg hready])
  | interrupt => exact .inr ⟨.interrupt, rfl⟩
  | leave => exact .inl rfl

theorem reached_perform {p : Pool} (h : Session.Reached site rule start limits p.session)
    (m : Move) : Session.Reached site rule start limits (p.perform site rule m).session := by
  rcases session_perform site rule p m with hsame | ⟨move, hmove⟩
  · rw [hsame]
    exact h
  · rw [hmove]
    exact h.perform move

/-! ## Pages in flight -/

theorem busy_dispatch_le (site : Site) (rule : Rule) (p : Pool) :
    (p.perform site rule .dispatch).busy ≤ p.busy := by
  simp only [perform]
  split
  · have hnone : (((p.session.perform site rule .dispatch).pending.map fun _ => Stage.waiting).count
        .visiting) = 0 := by
      rw [List.count_eq_zero]
      simp
    simp only [busy, hnone]
    omega
  · exact Nat.le_refl _

/-- Forgetting a page whose outcome is there leaves no more workers busy. -/
theorem busy_eraseIdx_le (p : Pool) (s : Session) (i : Nat) :
    (if p.isReady i then { p with session := s, stages := p.stages.eraseIdx i } else p).busy ≤
      p.busy := by
  split
  · exact Nat.add_le_add_right (List.Sublist.count_le _ (List.eraseIdx_sublist _ _)) _
  · exact Nat.le_refl _

/-- A worker that is done is no longer busy. -/
theorem busy_finish_le (site : Site) (rule : Rule) (p : Pool) (i : Nat) :
    (p.perform site rule (.finish i)).busy ≤ p.busy := by
  simp only [perform]
  split
  · next hstage =>
    obtain ⟨hi, hget⟩ := List.getElem?_eq_some_iff.1 hstage
    have hcount : (p.stages.set i .visited).count .visiting = p.stages.count .visiting - 1 := by
      rw [List.count_set hi, hget]
      simp
    simp only [busy, hcount]
    omega
  · exact Nat.le_refl _

/-- A visit begins only if there is a free worker for it. -/
theorem busy_visit_le (site : Site) (rule : Rule) (p : Pool) (i : Nat)
    (h : p.busy ≤ p.session.scheduler.limits.batchSize) :
    (p.perform site rule (.visit i)).busy ≤ p.session.scheduler.limits.batchSize := by
  simp only [perform]
  split
  · next hcond =>
    simp only [Bool.and_eq_true, decide_eq_true_eq, hasFreeWorker] at hcond
    obtain ⟨hi, hget⟩ := List.getElem?_eq_some_iff.1 hcond.1
    have hcount : (p.stages.set i .visiting).count .visiting = p.stages.count .visiting + 1 := by
      rw [List.count_set hi, hget]
      simp
    have hfree : p.stages.count .visiting + p.strays < p.session.scheduler.limits.batchSize :=
      hcond.2
    simp only [busy, hcount]
    omega
  · exact h

/-- Whatever happens, no more workers are busy than there are. -/
theorem busy_perform_le {p : Pool} (m : Move)
    (h : p.busy ≤ p.session.scheduler.limits.batchSize) :
    (p.perform site rule m).busy ≤ p.session.scheduler.limits.batchSize := by
  cases m with
  | dispatch => exact Nat.le_trans (busy_dispatch_le site rule p) h
  | visit i => exact busy_visit_le site rule p i h
  | finish i => exact Nat.le_trans (busy_finish_le site rule p i) h
  | settle i => exact Nat.le_trans (busy_eraseIdx_le p _ i) h
  | crash i => exact Nat.le_trans (busy_eraseIdx_le p _ i) h
  | interrupt =>
      have hbusy : (p.perform site rule .interrupt).busy = p.busy := by
        simp only [perform, busy, List.count_nil, Nat.zero_add]
      rw [hbusy]
      exact h
  | leave =>
      have hbusy : (p.perform site rule .leave).busy ≤ p.busy :=
        Nat.add_le_add_left (Nat.sub_le _ _) _
      exact Nat.le_trans hbusy h

/-- What the workers keep: their crawl is in a state that crawls get to, and no more of them are
busy than there are. -/
structure Sound (site : Site) (rule : Rule) (start : Url) (limits : Limits) (p : Pool) :
    Prop where
  reached : Session.Reached site rule start limits p.session
  busy_le : p.busy ≤ limits.batchSize

theorem Sound.new (site : Site) (rule : Rule) (start : Url) (limits : Limits) :
    Sound site rule start limits (Pool.new start limits) where
  reached := .new
  busy_le := Nat.zero_le _

theorem Sound.perform {p : Pool} (h : Sound site rule start limits p) (m : Move) :
    Sound site rule start limits (p.perform site rule m) where
  reached := reached_perform h.reached m
  busy_le := by
    rw [← h.reached.limits_eq]
    apply busy_perform_le
    rw [h.reached.limits_eq]
    exact h.busy_le

theorem Sound.replay {p : Pool} (h : Sound site rule start limits p) (moves : List Move) :
    Sound site rule start limits (p.replay site rule moves) := by
  induction moves generalizing p with
  | nil => exact h
  | cons m moves ih => exact ih (h.perform m)

/-- Whatever happens to a crawl and its workers, in whatever order: no page is handed out twice; the
quota bounds the pages visited and the number of workers those in flight; a page handed out is not
too deep and as many links lead to it from the start as its depth says; and a finding belongs to a
page that was handed out, was fetched and has the classification that the finding is made of. -/
theorem safe_after_replay (site : Site) (rule : Rule) (start : Url) (limits : Limits)
    (moves : List Move) :
    let p := (Pool.new start limits).replay site rule moves
    let s := p.session
    (s.dispatched.map Entry.url).Nodup ∧
      s.scheduler.visited.size ≤ limits.maxPages ∧
      p.busy ≤ max limits.maxWorkers 1 ∧
      (∀ e ∈ s.dispatched,
        e.depth ≤ limits.maxDepth ∧ site.Chain start.written e.depth e.url) ∧
      ∀ url f, (url, f) ∈ s.findings.byUrl →
        (∃ e ∈ s.dispatched, e.url = url) ∧
          ∃ text c, site url = .page text ∧
            (rule.classify (Html.document text)).value = some c ∧ f = .ofClassification c := by
  intro p s
  have hsound : Sound site rule start limits p := (Sound.new site rule start limits).replay moves
  have hreached : Session.Reached site rule start limits s := hsound.reached
  refine ⟨hreached.orderly.nodup_dispatched, hreached.size_visited_le, hsound.busy_le, ?_,
    hreached.findings⟩
  intro e he
  have hagenda : e ∈ s.agenda := List.mem_append_left _ he
  have hdepth := hreached.orderly.shallow e hagenda
  rw [hreached.limits_eq] at hdepth
  exact ⟨hdepth, hreached.chain e hagenda⟩

/-! ## Workers hold nothing up

The workers do not restrict what a crawl does. Abandoned visits end, and then one worker is enough
to visit the pages of a batch one after the other.
-/

theorem replay_append (site : Site) (rule : Rule) (p : Pool) (first second : List Move) :
    p.replay site rule (first ++ second) = (p.replay site rule first).replay site rule second :=
  List.foldl_append

/-- All pages that the crawl waits for are visited. -/
def Rested (p : Pool) : Prop :=
  p.stages = List.replicate p.session.pending.length .visited

theorem exists_replay_leave (site : Site) (rule : Rule) (p : Pool) :
    ∃ moves, p.replay site rule moves = { p with strays := 0 } := by
  obtain ⟨s, stages, strays⟩ := p
  induction strays with
  | zero => exact ⟨[], rfl⟩
  | succ n ih =>
      obtain ⟨moves, hmoves⟩ := ih
      exact ⟨.leave :: moves, hmoves⟩

/-- A free worker visits the next page that waits. -/
theorem replay_visit_finish (site : Site) (rule : Rule) (s : Session) (front rest : List Stage)
    (hfront : Stage.visiting ∉ front) (hrest : Stage.visiting ∉ rest) :
    replay site rule { session := s, stages := front ++ .waiting :: rest }
        [.visit front.length, .finish front.length] =
      { session := s, stages := front ++ .visited :: rest } := by
  have hpos : 0 < s.scheduler.limits.batchSize := by
    unfold Limits.batchSize
    omega
  have hbusy : busy { session := s, stages := front ++ .waiting :: rest } = 0 := by
    simp [busy, List.count_append, List.count_eq_zero.2 hfront, List.count_eq_zero.2 hrest]
  have hvisit : perform site rule { session := s, stages := front ++ .waiting :: rest }
      (.visit front.length) = { session := s, stages := front ++ .visiting :: rest } := by
    simp [perform, hasFreeWorker, hbusy, hpos]
  have hfinish : perform site rule { session := s, stages := front ++ .visiting :: rest }
      (.finish front.length) = { session := s, stages := front ++ .visited :: rest } := by
    simp [perform]
  rw [replay, List.foldl_cons, hvisit, List.foldl_cons, hfinish, List.foldl_nil]

theorem exists_replay_visit (site : Site) (rule : Rule) (s : Session) (visited waiting : Nat) :
    ∃ moves, replay site rule
        { session := s
          stages := List.replicate visited .visited ++ List.replicate waiting .waiting } moves =
      { session := s, stages := List.replicate (visited + waiting) .visited } := by
  induction waiting generalizing visited with
  | zero => exact ⟨[], by simp [replay]⟩
  | succ n ih =>
      obtain ⟨moves, hmoves⟩ := ih (visited + 1)
      have hone := replay_visit_finish site rule s (List.replicate visited .visited)
        (List.replicate n .waiting) (by simp) (by simp)
      rw [List.length_replicate] at hone
      refine ⟨[.visit visited, .finish visited] ++ moves, ?_⟩
      rw [List.replicate_succ, replay_append, hone, List.append_cons, ← List.replicate_succ',
        hmoves]
      congr 2
      omega

theorem Rested.isReady {p : Pool} (h : p.Rested) {i : Nat} (hi : i < p.session.pending.length) :
    p.isReady i = true := by
  have hnone : Stage.waiting ∉ p.stages := by
    rw [h]
    simp
  have hstage : p.stages[i]? = some .visited := by
    rw [h, List.getElem?_replicate, if_pos hi]
  simp [Pool.isReady, hstage, hnone]

theorem Rested.eraseIdx {p : Pool} (h : p.Rested) (outcome : Entry → Outcome) {i : Nat}
    (hi : i < p.session.pending.length) :
    Rested { p with session := p.session.settleWith outcome i, stages := p.stages.eraseIdx i } := by
  have hpending := List.getElem?_eq_getElem hi
  rw [Rested, Session.settleWith_of_some outcome hpending, Session.pending_takeIn,
    List.length_eraseIdx_of_lt hi, h, List.eraseIdx_replicate, if_pos hi]

/-- The workers can follow the crawl through anything that happens to it. -/
theorem exists_replay_perform (site : Site) (rule : Rule) {p : Pool} (hrested : p.Rested)
    (move : Session.Move) :
    ∃ moves, (p.replay site rule moves).session = p.session.perform site rule move ∧
      (p.replay site rule moves).Rested := by
  cases move with
  | dispatch =>
      by_cases hpending : p.session.pending.isEmpty = true
      · let s := p.session.perform site rule .dispatch
        obtain ⟨leaves, hleaves⟩ := exists_replay_leave site rule p
        obtain ⟨visits, hvisits⟩ := exists_replay_visit site rule s 0 s.pending.length
        have hdispatch : perform site rule { p with strays := 0 } .dispatch =
            { session := s
              stages := List.replicate 0 .visited ++
                List.replicate s.pending.length .waiting } := by
          simp only [perform, if_pos hpending, List.map_const', List.replicate_zero,
            List.nil_append, s]
        have hall : p.replay site rule (leaves ++ .dispatch :: visits) =
            { session := s, stages := List.replicate (0 + s.pending.length) .visited } := by
          rw [replay_append, hleaves, replay, List.foldl_cons, hdispatch]
          exact hvisits
        refine ⟨_, by rw [hall], ?_⟩
        rw [hall, Rested, Nat.zero_add]
      · refine ⟨[], ?_, hrested⟩
        simp only [Session.perform, if_neg hpending]
        rfl
  | settle i =>
      by_cases hi : i < p.session.pending.length
      · refine ⟨[.settle i], ?_, ?_⟩
        · simp only [replay, List.foldl_cons, List.foldl_nil, perform, hrested.isReady hi,
            if_true]
        · simp only [replay, List.foldl_cons, List.foldl_nil, perform, hrested.isReady hi,
            if_true]
          exact hrested.eraseIdx _ hi
      · refine ⟨[], ?_, hrested⟩
        exact (Session.settleWith_of_none _ (List.getElem?_eq_none (Nat.not_lt.1 hi))).symm
  | crash i =>
      by_cases hi : i < p.session.pending.length
      · refine ⟨[.crash i], ?_, ?_⟩
        · simp only [replay, List.foldl_cons, List.foldl_nil, perform, hrested.isReady hi,
            if_true]
        · simp only [replay, List.foldl_cons, List.foldl_nil, perform, hrested.isReady hi,
            if_true]
          exact hrested.eraseIdx _ hi
      · refine ⟨[], ?_, hrested⟩
        exact (Session.settleWith_of_none _ (List.getElem?_eq_none (Nat.not_lt.1 hi))).symm
  | interrupt => exact ⟨[.interrupt], rfl, rfl⟩

/-- Every course of a crawl is one that the workers allow. -/
theorem exists_replay (site : Site) (rule : Rule) (start : Url) (limits : Limits)
    (course : List Session.Move) :
    ∃ moves, ((Pool.new start limits).replay site rule moves).session =
      (Session.new start limits).replay site rule course := by
  have hfollow : ∀ p : Pool, p.Rested → ∃ moves, (p.replay site rule moves).session =
      p.session.replay site rule course := by
    induction course with
    | nil => exact fun p _ => ⟨[], rfl⟩
    | cons move course ih =>
        intro p hrested
        obtain ⟨first, hfirst, hrested'⟩ := exists_replay_perform site rule hrested move
        obtain ⟨second, hsecond⟩ := ih _ hrested'
        refine ⟨first ++ second, ?_⟩
        rw [replay_append, hsecond, hfirst]
        rfl
  exact hfollow (Pool.new start limits) rfl

end Prospector.Pool
