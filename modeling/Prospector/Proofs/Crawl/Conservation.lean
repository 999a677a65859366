import Mathlib
import Prospector.Proofs.Crawl.Confluence

/-!
# What the counters of a crawl add up to

The counters of a crawl are kept in different places and change at different moments: the pages
visited when a batch is handed out, the tally and the new links when a visit ends, the findings when
a page has a classification. A ledger is kept beside the crawl and says what became of each page
handed out: its visit ended, it is being visited, or it was abandoned. Every counter is a sum over
the ledger, whatever happens to the crawl.

## Main definitions

* `Ending` : the end of the visit of a page.
* `Session.Ledger`, `Session.ledger` : what became of the pages that a crawl handed out.
* `Session.Balanced` : whether the counters of a crawl agree with a ledger.

## Main results

* `Session.Balanced.perform`, `Session.balanced_ledger` : whatever happens, they do.
* `Session.counters_conserved` : what the counters add up to.
-/

namespace Prospector

/-! ## Findings and tallies -/

/-- A new address adds one to the findings. -/
theorem Findings.length_insertNew {url : String} (f : Finding) {found : List (String × Finding)}
    (hnew : url ∉ found.map Prod.fst) : (insertNew url f found).length = found.length + 1 := by
  fun_induction insertNew url f found with
  | case1 => rfl
  | case2 => exact absurd List.mem_cons_self hnew
  | case3 => rfl
  | case4 u g rest _ _ ih =>
      rw [List.map_cons, List.mem_cons, not_or] at hnew
      simp [ih hnew.2]

/-- Every page that ended is counted under one state. -/
theorem Tally.sum_count (t : Tally) : (PageState.all.map t.count).sum = t.total := by
  obtain ⟨states⟩ := t
  induction states with
  | nil => rfl
  | cons state states ih =>
      simp only [PageState.all, count, total, List.map_cons, List.map_nil, List.sum_cons,
        List.sum_nil, List.length_cons] at ih ⊢
      cases state <;> simp <;> omega

/-- The end of the visit of a page. -/
structure Ending where
  entry : Entry
  /-- Whether the visit broke down. -/
  broken : Bool
  deriving DecidableEq, Repr

namespace Ending

/-- What the visit brings, the links to pages visited by then left out. -/
def outcome (site : Site) (rule : Rule) (visited : VisitedSet) (x : Ending) : Outcome :=
  if x.broken then .breakdown else (Outcome.ofVisit site rule x.entry.url).without visited

/-- The state that the page ends in. -/
def state (site : Site) (rule : Rule) (x : Ending) : PageState :=
  if x.broken then .failed else (Outcome.ofVisit site rule x.entry.url).state

/-- Whether the page could not be fetched or its visit broke down. -/
def isFailure (site : Site) (x : Ending) : Bool :=
  x.broken ||
    match site x.entry.url with
    | .page _ => false
    | .failed _ => true

variable (site : Site) (rule : Rule) (visited : VisitedSet) (x : Ending)

theorem state_outcome : (x.outcome site rule visited).state = x.state site rule := by
  unfold outcome state
  split <;> rfl

/-- A page has a classification if and only if it ends in the state for that. -/
theorem isSome_classification_outcome :
    (x.outcome site rule visited).classification.isSome = (x.state site rule == .classified) := by
  unfold outcome state
  split
  · rfl
  · rw [Outcome.classification_without, Outcome.ofVisit]
    cases site x.entry.url with
    | page text =>
        show (rule.classify _).value.isSome =
          ((if (rule.classify _).value.isSome then PageState.classified else .unmatched) ==
            .classified)
        cases (rule.classify (Html.document text)).value.isSome <;> rfl
    | failed fault =>
        have hne : fault.state ≠ .classified := by
          intro hstate
          have herror := fault.isError_state
          rw [hstate] at herror
          cases herror
        exact (beq_false_of_ne hne).symm

/-- Pages that bring nothing are those that end in error states. -/
theorem isError_state : (x.state site rule).isError = x.isFailure site := by
  unfold state isFailure
  cases x.broken with
  | true => rfl
  | false =>
      rw [if_neg Bool.false_ne_true, Outcome.ofVisit]
      cases site x.entry.url with
      | page text =>
          show (if (rule.classify _).value.isSome then PageState.classified
            else .unmatched).isError = false
          split <;> rfl
      | failed fault => exact fault.isError_state

end Ending

namespace Session

/-! ## The ledger -/

/-- What became of the pages that a crawl handed out and that are not being visited. -/
structure Ledger where
  /-- The visits that ended, the last one first. -/
  ended : List Ending := []
  /-- The pages that were abandoned. -/
  abandoned : List Entry := []
  deriving DecidableEq, Repr

/-- The visit that a move ends. -/
def ending? (s : Session) : Move → Option Ending
  | .settle i => s.pending[i]?.map fun e => ⟨e, false⟩
  | .crash i => s.pending[i]?.map fun e => ⟨e, true⟩
  | .dispatch | .interrupt => none

/-- The pages that a move abandons. -/
def abandons (s : Session) : Move → List Entry
  | .interrupt => s.pending
  | .dispatch | .settle _ | .crash _ => []

/-- The ledger after something happened to the crawl. -/
def Ledger.note (l : Ledger) (s : Session) (m : Move) : Ledger :=
  { ended := (s.ending? m).toList ++ l.ended
    abandoned := s.abandons m ++ l.abandoned }

/-- The ledger after several things happened to the crawl one after another. -/
def ledger (site : Site) (rule : Rule) (s : Session) (l : Ledger) : List Move → Ledger
  | [] => l
  | m :: moves => ledger site rule (s.perform site rule m) (l.note s m) moves

theorem abandoned_ledger (site : Site) (rule : Rule) {moves : List Move}
    (h : Move.interrupt ∉ moves) (s : Session) (l : Ledger) :
    (ledger site rule s l moves).abandoned = l.abandoned := by
  induction moves generalizing s l with
  | nil => rfl
  | cons m moves ih =>
      rw [List.mem_cons, not_or] at h
      rw [ledger, ih h.2]
      cases m with
      | interrupt => exact absurd rfl h.1
      | dispatch | settle i | crash i => rfl

/-! ## The balance -/

/-- The counters of a crawl are sums over a ledger. -/
structure Balanced (site : Site) (rule : Rule) (l : Ledger) (s : Session) : Prop where
  split : (l.ended.map Ending.entry ++ (s.pending ++ l.abandoned)).Perm s.dispatched
  states : s.tally.states = l.ended.map (Ending.state site rule)
  size_findings : s.findings.size = s.tally.count .classified
  /-- Only pages whose visit ended have findings. -/
  ended : ∀ m ∈ s.findings.byUrl, m.1 ∈ l.ended.map fun x => x.entry.url

namespace Balanced

variable {site : Site} {rule : Rule} {l : Ledger} {s : Session}

theorem new (site : Site) (rule : Rule) (start : Url) (limits : Limits) :
    (Session.new start limits).Balanced site rule {} where
  split := .refl _
  states := rfl
  size_findings := rfl
  ended := fun _ h => absurd h List.not_mem_nil

/-- A batch that is handed out is being visited. -/
theorem dispatch (h : s.Balanced site rule l) (horderly : s.Orderly) (hpending : s.pending = []) :
    s.dispatch.Balanced site rule l where
  split := by
    have hsplit := h.split
    rw [hpending, List.nil_append] at hsplit
    rw [pending_dispatch horderly, dispatched_dispatch horderly]
    refine List.Perm.trans ?_ (hsplit.append_right s.batch)
    rw [List.append_assoc]
    exact List.perm_append_comm.append_left _
  states := by
    rw [dispatch_eq horderly]
    exact h.states
  size_findings := by
    rw [dispatch_eq horderly]
    exact h.size_findings
  ended := by
    rw [dispatch_eq horderly]
    exact h.ended

/-- A page that is being visited has no finding yet, because no page is handed out twice. -/
theorem url_not_mem (h : s.Balanced site rule l) (horderly : s.Orderly) {i : Nat} {e : Entry}
    (hget : s.pending[i]? = some e) : e.url ∉ s.findings.byUrl.map Prod.fst := by
  have hnodup := (h.split.map Entry.url).nodup_iff.2 horderly.nodup_dispatched
  rw [List.map_append, List.map_map] at hnodup
  have hpending : e.url ∈ (s.pending ++ l.abandoned).map Entry.url :=
    List.mem_map_of_mem (List.mem_append_left _ (List.mem_of_getElem? hget))
  intro hfound
  obtain ⟨m, hm, hurl⟩ := List.mem_map.1 hfound
  exact (List.nodup_append.1 hnodup).2.2 _ (h.ended m hm) _ hpending hurl

/-- A visit that ends is counted once in every counter that it concerns. -/
theorem takeIn (h : s.Balanced site rule l) (horderly : s.Orderly) {i : Nat} {x : Ending}
    (hget : s.pending[i]? = some x.entry) :
    (s.takeIn i x.entry (x.outcome site rule s.scheduler.visited)).Balanced site rule
      { l with ended := x :: l.ended } where
  split := by
    obtain ⟨hlt, hentry⟩ := List.getElem?_eq_some_iff.1 hget
    rw [pending_takeIn, dispatched_takeIn, List.map_cons]
    have hmove := (List.getElem_cons_eraseIdx_perm hlt).append_right l.abandoned
    rw [hentry, List.cons_append] at hmove
    exact (List.perm_middle.symm.trans (hmove.append_left _)).trans h.split
  states := by
    rw [List.map_cons, ← h.states, ← x.state_outcome site rule s.scheduler.visited]
    rfl
  size_findings := by
    have hnew := h.url_not_mem horderly hget
    have hclassified := x.isSome_classification_outcome site rule s.scheduler.visited
    rw [← x.state_outcome site rule s.scheduler.visited] at hclassified
    show _ = (s.tally.record (x.outcome site rule s.scheduler.visited).state).count .classified
    rw [findings_takeIn]
    cases hc : (x.outcome site rule s.scheduler.visited).classification with
    | none =>
        rw [hc] at hclassified
        rw [Tally.count_record_of_ne _ (by simpa using hclassified.symm)]
        exact h.size_findings
    | some c =>
        rw [hc] at hclassified
        rw [eq_of_beq hclassified.symm, Tally.count_record_self, ← h.size_findings]
        exact Findings.length_insertNew _ hnew
  ended := by
    intro m hm
    rw [List.map_cons, List.mem_cons]
    rw [findings_takeIn] at hm
    split at hm
    · rcases Findings.mem_add hm with rfl | hold
      · exact .inl rfl
      · exact .inr (h.ended m hold)
    · exact .inr (h.ended m hm)

/-- Pages that are abandoned are no longer being visited. -/
theorem interrupt (h : s.Balanced site rule l) :
    s.interrupt.Balanced site rule { l with abandoned := s.pending ++ l.abandoned } where
  split := h.split
  states := h.states
  size_findings := h.size_findings
  ended := h.ended

/-- The end of a visit, or nothing if no page is being visited at the index. -/
theorem settleWith (h : s.Balanced site rule l) (horderly : s.Orderly) (broken : Bool) (i : Nat) :
    (s.settleWith (fun e => (⟨e, broken⟩ : Ending).outcome site rule s.scheduler.visited)
      i).Balanced site rule
        { l with ended := (s.pending[i]?.map fun e => ⟨e, broken⟩).toList ++ l.ended } := by
  cases hget : s.pending[i]? with
  | none =>
      rw [settleWith_of_none _ hget]
      exact h
  | some e =>
      rw [settleWith_of_some _ hget]
      exact h.takeIn (x := ⟨e, broken⟩) horderly hget

/-- Whatever happens, the counters agree with the ledger. -/
theorem perform (h : s.Balanced site rule l) (horderly : s.Orderly) (m : Move) :
    (s.perform site rule m).Balanced site rule (l.note s m) := by
  cases m with
  | dispatch =>
      show (if s.pending.isEmpty then s.dispatch else s).Balanced site rule l
      split
      · next hpending => exact h.dispatch horderly (List.isEmpty_iff.1 hpending)
      · exact h
  | settle i => exact h.settleWith horderly false i
  | crash i => exact h.settleWith horderly true i
  | interrupt => exact h.interrupt

end Balanced

section Ledgers

variable {site : Site} {rule : Rule} {start : Url} {limits : Limits}

theorem Balanced.replay {l : Ledger} {s : Session} (h : s.Balanced site rule l)
    (hreached : Reached site rule start limits s) (moves : List Move) :
    (s.replay site rule moves).Balanced site rule (ledger site rule s l moves) := by
  induction moves generalizing s l with
  | nil => exact h
  | cons m moves ih => exact ih (h.perform hreached.orderly m) (hreached.perform m)

/-- The counters of a crawl agree with its ledger. -/
theorem balanced_ledger (site : Site) (rule : Rule) (start : Url) (limits : Limits)
    (moves : List Move) :
    ((Session.new start limits).replay site rule moves).Balanced site rule
      (ledger site rule (Session.new start limits) {} moves) :=
  (Balanced.new site rule start limits).replay .new moves

end Ledgers

/-- Whatever happens to a crawl, in whatever order its visits end and however often it is
interrupted: the start and the new links are the pages visited and those that wait. The pages handed
out are those whose visit ended, those being visited and those that were abandoned, and the tally
counts the first of these, under all states together. There are as many findings as pages in the
state for them, and as many errors as visits that ended without the page. So without interruption
the tally counts all pages visited as soon as none is being visited, and this is how every run
ends. -/
theorem counters_conserved (site : Site) (rule : Rule) (start : Url) (limits : Limits)
    (moves : List Move) :
    let s := (Session.new start limits).replay site rule moves
    let l := ledger site rule (Session.new start limits) {} moves
    let counted := (PageState.all.map s.statistics.tally.count).sum
    1 + s.statistics.linksEnqueued = s.statistics.visited + s.scheduler.frontier.length ∧
      (l.ended.map Ending.entry ++ (s.pending ++ l.abandoned)).Perm s.dispatched ∧
      counted = l.ended.length ∧
      counted + (s.pending.length + l.abandoned.length) = s.statistics.visited ∧
      s.statistics.classified = s.findings.size ∧
      s.findings.size = s.statistics.tally.count .classified ∧
      s.statistics.tally.errors = l.ended.countP (Ending.isFailure site) ∧
      (Move.interrupt ∉ moves → s.pending = [] → counted = s.statistics.visited) ∧
      ∀ order, (PageState.all.map
          ((Session.new start limits).run site rule order).statistics.tally.count).sum =
        ((Session.new start limits).run site rule order).statistics.visited := by
  intro s l counted
  have hreached : Reached site rule start limits s := reached_replay site rule start limits moves
  have hbalanced : s.Balanced site rule l := balanced_ledger site rule start limits moves
  have hvisited : s.statistics.visited = s.dispatched.length := hreached.orderly.size_visited
  have hcounted : counted = l.ended.length := by
    show (PageState.all.map s.tally.count).sum = l.ended.length
    rw [Tally.sum_count, Tally.total, hbalanced.states, List.length_map]
  have hsplit : counted + (s.pending.length + l.abandoned.length) = s.statistics.visited := by
    have hlength := hbalanced.split.length_eq
    rw [List.length_append, List.length_append, List.length_map] at hlength
    omega
  refine ⟨?_, hbalanced.split, hcounted, hsplit, rfl, hbalanced.size_findings, ?_, ?_, ?_⟩
  · have hlinks : s.linksEnqueued + 1 = s.agenda.length := hreached.linksEnqueued_eq
    rw [agenda, List.length_append] at hlinks
    show 1 + s.linksEnqueued = _
    omega
  · show s.tally.states.countP PageState.isError = _
    rw [hbalanced.states, List.countP_map]
    exact List.countP_congr fun x _ => by rw [Function.comp, Ending.isError_state]
  · intro hinterrupt hpending
    have habandoned : l.abandoned = [] := abandoned_ledger site rule hinterrupt _ _
    rw [hpending, habandoned] at hsplit
    exact hsplit
  · intro order
    obtain ⟨ended, htallied⟩ := exists_tallied_run site rule start limits order
    have hrun := reached_run site rule start limits order
    have hlength := htallied.split.length_eq
    rw [pending_run, List.append_nil] at hlength
    show (PageState.all.map (Session.run site rule order _).tally.count).sum =
      (Session.run site rule order _).scheduler.visited.size
    rw [Tally.sum_count, Tally.total, htallied.states, List.length_map, hlength,
      hrun.orderly.size_visited]

/-- The only page handed out counts as an error after its visit broke down. -/
theorem counters_conserved_crash :
    let s := (Session.new detourHome ⟨100, 3, 1⟩).replay detour (.oneOf []) [.dispatch, .crash 0]
    s.pending = [] ∧ (PageState.all.map s.statistics.tally.count).sum = s.statistics.visited ∧
      s.statistics.tally.errors = 1 := by
  intro s
  have hconserved := counters_conserved detour (.oneOf []) detourHome ⟨100, 3, 1⟩
    [.dispatch, .crash 0]
  obtain ⟨-, -, -, -, -, -, herrors, hall, -⟩ := hconserved
  have hpending : s.pending = [] := by decide +kernel
  exact ⟨hpending, hall (by decide) hpending, herrors.trans (by decide +kernel)⟩

end Session

end Prospector
