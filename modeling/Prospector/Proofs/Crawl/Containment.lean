import Prospector.Crawl.Pool
import Prospector.Proofs.Crawl.Interruption

/-!
# Failures are contained

How a page fails to be fetched does not matter to a crawl. Beside a crawl of a site stands one of a
site with the same pages, on which the other addresses fail in other ways. An outcome without a page
brings neither a classification nor links, whatever the fault was, so if the visits end in the same
order the two crawls are the same in every state but for their tallies, and there an error state
faces an error state. Everything that decides what happens next leaves the tally out.

## Main definitions

* `Site.SamePages` : whether two sites have the same pages.
* `Session.Alike` : whether two crawls are the same but for the faults that they met.
* `Session.SameButFaults` : what that means for all that a crawl brings.
* `Session.IgnoresTally` : whether the order in which visits end depends on no state of a page.

## Main results

* `Session.Alike.perform`, `Session.Alike.replay` : whatever happens keeps crawls alike.
* `Session.Alike.run` : runs in which the same visits end in the same order.
* `Session.failures_contained` : all of it, for crawls from their start.
-/

namespace Prospector

/-! ## Outcomes -/

/-- Whether two sites have the same pages. At all other addresses both of them fail, which they may
do in different ways. -/
def Site.SamePages (site other : Site) : Prop :=
  ∀ url text, site url = .page text ↔ other url = .page text

/-- Sites that lose the same pages have the same pages left. -/
theorem Site.samePages_failing (site : Site) (lost : List String)
    (fault fault' : String → FetchFault) :
    (site.failing lost fault).SamePages (site.failing lost fault') := by
  intro url text
  unfold failing
  split
  · exact iff_of_false nofun nofun
  · exact Iff.rfl

/-- Whether two states of pages are the same but for the fault. -/
def PageState.Alike (a b : PageState) : Prop :=
  a = b ∨ a.isError = true ∧ b.isError = true

/-- Whether two outcomes are the same but for the fault. -/
inductive Outcome.Alike (o : Outcome) : Outcome → Prop
  | mk (state : PageState) (h : o.state.Alike state) : Alike o { o with state }

namespace Outcome

theorem Alike.refl (o : Outcome) : o.Alike o :=
  .mk o.state (.inl rfl)

theorem Alike.without {o p : Outcome} (h : o.Alike p) (visited : VisitedSet) :
    (o.without visited).Alike (p.without visited) := by
  cases h with
  | mk state h => exact .mk state h

/-- Sites with the same pages bring the same outcomes but for the faults. -/
theorem alike_ofVisit {site other : Site} (h : site.SamePages other) (rule : Rule) (url : String) :
    (ofVisit site rule url).Alike (ofVisit other rule url) := by
  unfold ofVisit
  cases hsite : site url with
  | page text =>
      rw [(h url text).1 hsite]
      exact .refl _
  | failed fault =>
      cases hother : other url with
      | page text =>
          rw [(h url text).2 hother] at hsite
          cases hsite
      | failed fault' => exact .mk _ (.inr ⟨fault.isError_state, fault'.isError_state⟩)

end Outcome

/-! ## Tallies -/

/-- Whether two tallies hold the same states but for the faults. -/
def Tally.Alike (t u : Tally) : Prop :=
  List.Forall₂ PageState.Alike t.states u.states

namespace Tally.Alike

variable {t u : Tally}

theorem refl (t : Tally) : t.Alike t :=
  List.forall₂_same.2 fun _ _ => .inl rfl

theorem record (h : t.Alike u) {a b : PageState} (hab : a.Alike b) :
    (t.record a).Alike (u.record b) :=
  .cons hab h

theorem total (h : t.Alike u) : u.total = t.total :=
  h.length_eq.symm

/-- A test that does not tell error states apart holds of as many states on both sides. -/
theorem countP (h : t.Alike u) {p : PageState → Bool}
    (hp : ∀ a b : PageState, a.isError = true → b.isError = true → p a = p b) :
    u.states.countP p = t.states.countP p := by
  obtain ⟨as⟩ := t
  obtain ⟨bs⟩ := u
  have hstates : List.Forall₂ PageState.Alike as bs := h
  clear h
  show bs.countP p = as.countP p
  induction hstates with
  | nil => rfl
  | @cons a b as bs hab _ ih =>
      have hsame : p a = p b := by
        rcases hab with rfl | ⟨ha, hb⟩
        · rfl
        · exact hp a b ha hb
      rw [List.countP_cons, List.countP_cons, ih, hsame]

theorem errors (h : t.Alike u) : u.errors = t.errors :=
  h.countP fun _ _ ha hb => ha.trans hb.symm

theorem count (h : t.Alike u) {state : PageState} (hstate : state.isError = false) :
    u.count state = t.count state := by
  have hne : ∀ a : PageState, a.isError = true → (a == state) = false := by
    intro a ha
    rw [beq_eq_false_iff_ne]
    rintro rfl
    exact nomatch ha.symm.trans hstate
  exact h.countP fun a b ha hb => (hne a ha).trans (hne b hb).symm

end Tally.Alike

namespace Session

/-! ## Crawls that are alike -/

/-- Whether two crawls are the same but for the faults that they met. -/
inductive Alike (s : Session) : Session → Prop
  | mk (tally : Tally) (h : s.tally.Alike tally) : Alike s { s with tally }

namespace Alike

variable {site other : Site} {rule : Rule} {s t : Session}

theorem refl (s : Session) : s.Alike s :=
  .mk s.tally (.refl _)

theorem scheduler (h : s.Alike t) : t.scheduler = s.scheduler := by
  cases h
  rfl

theorem pending (h : s.Alike t) : t.pending = s.pending := by
  cases h
  rfl

theorem isFinished (h : s.Alike t) : t.isFinished = s.isFinished := by
  cases h
  rfl

theorem dispatch (h : s.Alike t) : s.dispatch.Alike t.dispatch := by
  cases h with
  | mk tally htally => exact .mk tally htally

theorem interrupt (h : s.Alike t) : s.interrupt.Alike t.interrupt := by
  cases h with
  | mk tally htally => exact .mk tally htally

theorem takeIn (h : s.Alike t) {o p : Outcome} (ho : o.Alike p) (i : Nat) (e : Entry) :
    (s.takeIn i e o).Alike (t.takeIn i e p) := by
  cases h with
  | mk tally htally =>
      cases ho with
      | mk state hstate => exact .mk (tally.record state) (htally.record hstate)

theorem settleWith (h : s.Alike t) {outcome outcome' : Entry → Outcome}
    (ho : ∀ e, (outcome e).Alike (outcome' e)) (i : Nat) :
    (s.settleWith outcome i).Alike (t.settleWith outcome' i) := by
  cases hget : s.pending[i]? with
  | none =>
      have hget' : t.pending[i]? = none := h.pending ▸ hget
      rw [settleWith_of_none _ hget, settleWith_of_none _ hget']
      exact h
  | some e =>
      have hget' : t.pending[i]? = some e := h.pending ▸ hget
      rw [settleWith_of_some _ hget, settleWith_of_some _ hget']
      exact h.takeIn (ho e) i e

theorem settle (h : s.Alike t) (hsites : site.SamePages other) (i : Nat) :
    (s.settle site rule i).Alike (t.settle other rule i) := by
  unfold Session.settle
  rw [h.scheduler]
  exact h.settleWith (fun e => (Outcome.alike_ofVisit hsites rule e.url).without _) i

/-- Whatever happens keeps crawls alike. -/
theorem perform (h : s.Alike t) (hsites : site.SamePages other) (m : Move) :
    (s.perform site rule m).Alike (t.perform other rule m) := by
  cases m with
  | dispatch =>
      unfold Session.perform
      simp only [h.pending]
      split
      · exact h.dispatch
      · exact h
  | settle i => exact h.settle hsites i
  | crash i => exact h.settleWith (fun _ => .refl _) i
  | interrupt => exact h.interrupt

theorem replay (h : s.Alike t) (hsites : site.SamePages other) (moves : List Move) :
    (s.replay site rule moves).Alike (t.replay other rule moves) := by
  induction moves generalizing s t with
  | nil => exact h
  | cons m moves ih => exact ih (h.perform hsites m)

/-- Runs in which the visits of the same pages end in the same order keep crawls alike. -/
theorem run {order order' : Order} (h : s.Alike t) (hs : s.Orderly) (hsites : site.SamePages other)
    (hlog : s.recorded site rule order (fun _ => false) =
      t.recorded other rule order' fun _ => false) :
    (s.run site rule order).Alike (t.run other rule order') := by
  -- the log decides which page being visited is next, and it is being visited once
  fun_induction recorded site rule order (fun _ => false) s generalizing t with
  | case1 s hfinished =>
      have hfinished' : t.isFinished = true := h.isFinished.trans hfinished
      rw [(run_of_isFinished site rule order hfinished).1,
        (run_of_isFinished other rule order' hfinished').1]
      exact h
  | case2 s _ hstop => cases hstop
  | case3 s hfinished _ ih =>
      have hopen : s.isFinished = false := Bool.not_eq_true _ ▸ hfinished
      have hopen' : t.isFinished = false := h.isFinished.trans hopen
      obtain ⟨hrun, -⟩ := run_of_not_isFinished site rule order hopen
      obtain ⟨hrun', hrecorded'⟩ := run_of_not_isFinished other rule order' hopen'
      rw [hrun, hrun']
      rw [hrecorded'] at hlog
      by_cases hpending : s.pending = []
      · have hpending' : t.pending = [] := h.pending.trans hpending
        obtain ⟨hmove, hnext⟩ := nextMove_of_pending_eq_nil order hpending
        obtain ⟨hmove', hnext'⟩ := nextMove_of_pending_eq_nil order' hpending'
        rw [hnext, hnext', hmove, hmove'] at hlog
        rw [hmove] at ih ⊢
        rw [hmove']
        refine ih (h.perform hsites .dispatch) ?_ hlog
        rw [perform_dispatch site rule hpending]
        exact hs.dispatch
      · obtain ⟨e, he⟩ := exists_next order hpending
        have hpending' : t.pending ≠ [] := fun hnil => hpending (h.pending.symm.trans hnil)
        obtain ⟨e', he'⟩ := exists_next order' hpending'
        obtain ⟨hmove, hnext⟩ := nextMove_of_some he
        obtain ⟨hmove', hnext'⟩ := nextMove_of_some he'
        rw [hnext, hnext', hmove, hmove'] at hlog
        obtain ⟨rfl, hrest⟩ := List.cons.inj hlog
        have hindex : s.nextIndex order = t.nextIndex order' := by
          rw [h.pending] at he'
          obtain ⟨hlt, -⟩ := List.getElem?_eq_some_iff.1 he
          exact (List.getElem?_inj hlt hs.nodup_pending).1 (he.trans he'.symm)
        rw [hmove] at ih ⊢
        rw [hmove', ← hindex]
        rw [← hindex] at hrest
        refine ih (h.perform hsites _) ?_ hrest
        rw [Session.perform, settle_of_some site rule he]
        exact hs.takeIn _ _ _

/-- What happens to a crawl can happen to one that is alike. -/
theorem exists_unfolds {s' : Session} {ended gone : List Entry}
    (hunfolds : Unfolds site rule s ended gone t) (hsites : site.SamePages other)
    (h : s.Alike s') : ∃ t', Unfolds other rule s' ended gone t' ∧ t.Alike t' := by
  induction hunfolds generalizing s' with
  | refl s => exact ⟨s', .refl s', h⟩
  | @dispatch s t ended gone hpending hopen _ ih =>
      obtain ⟨t', hrest, ht⟩ := ih h.dispatch
      have hopen' : s'.scheduler.isFinished = false := h.scheduler ▸ hopen
      exact ⟨t', .dispatch (h.pending.trans hpending) hopen' hrest, ht⟩
  | @settle s t ended gone i e hget _ ih =>
      obtain ⟨t', hrest, ht⟩ := ih (h.settle hsites i)
      have hget' : s'.pending[i]? = some e := h.pending ▸ hget
      exact ⟨t', .settle hget' hrest, ht⟩
  | @interrupt s t ended gone _ ih =>
      obtain ⟨t', hrest, ht⟩ := ih h.interrupt
      rw [← h.pending]
      exact ⟨t', .interrupt hrest, ht⟩

end Alike

/-! ## Orders -/

/-- Whether an order looks at what pages are being visited, found and waiting, but not at the states
in which pages have ended. -/
def IgnoresTally (order : Order) : Prop :=
  ∀ (s : Session) (tally : Tally), order { s with tally } = order s

section Orders

variable {site other : Site} {rule : Rule} {s t : Session}

/-- In an order that ignores the tally, the visits of the same pages end in the same order. -/
theorem recorded_of_ignoresTally {order : Order} (horder : IgnoresTally order)
    (hsites : site.SamePages other) (h : s.Alike t) :
    t.recorded other rule order (fun _ => false) =
      s.recorded site rule order fun _ => false := by
  fun_induction recorded site rule order (fun _ => false) s generalizing t with
  | case1 s hfinished =>
      exact (run_of_isFinished other rule order (h.isFinished.trans hfinished)).2
  | case2 s _ hstop => cases hstop
  | case3 s hfinished _ ih =>
      have hopen' : t.isFinished = false := h.isFinished.trans (Bool.not_eq_true _ ▸ hfinished)
      have hindex : t.nextIndex order = s.nextIndex order := by
        cases h with
        | mk tally _ => exact congrArg (· % s.pending.length) (horder s tally)
      have hmove : t.nextMove order = s.nextMove order := by
        rw [nextMove, nextMove, hindex, h.pending]
      have hnext : t.next? order = s.next? order := by rw [next?, next?, hindex, h.pending]
      rw [(run_of_not_isFinished other rule order hopen').2, hnext, hmove,
        ih (h.perform hsites (s.nextMove order))]

/-- Every run has its counterpart on a site with the same pages. -/
theorem exists_order_of_samePages (hsites : site.SamePages other) (h : s.Alike t) (order : Order) :
    ∃ order', t.recorded other rule order' (fun _ => false) =
      s.recorded site rule order fun _ => false := by
  obtain ⟨t', hunfolds, ht⟩ := Alike.exists_unfolds (unfolds_run site rule order s) hsites h
  have hfinished : t'.isFinished = true :=
    ht.isFinished.trans (isFinished_run site rule order s)
  obtain ⟨order', -, hrecorded⟩ := hunfolds.exists_order rfl hfinished
  exact ⟨order', hrecorded⟩

end Orders

end Session

/-! ## Workers -/

namespace Pool

variable {site other : Site} {rule : Rule} {p q : Pool}

/-- Whether two crawls are alike and their workers are in the same place. -/
structure Alike (p q : Pool) : Prop where
  session : p.session.Alike q.session
  stages : q.stages = p.stages
  strays : q.strays = p.strays

namespace Alike

theorem busy (h : p.Alike q) : q.busy = p.busy := by
  rw [Pool.busy, Pool.busy, h.stages, h.strays]

theorem isReady (h : p.Alike q) (i : Nat) : q.isReady i = p.isReady i := by
  rw [Pool.isReady, Pool.isReady, h.stages]

theorem hasFreeWorker (h : p.Alike q) : q.hasFreeWorker = p.hasFreeWorker := by
  rw [Pool.hasFreeWorker, Pool.hasFreeWorker, h.busy, h.session.scheduler]

/-- Workers of crawls that are alike keep to the same places. -/
theorem perform (h : p.Alike q) (hsites : site.SamePages other) (m : Move) :
    (p.perform site rule m).Alike (q.perform other rule m) := by
  have hsession : ∀ m, (p.session.perform site rule m).Alike (q.session.perform other rule m) :=
    h.session.perform hsites
  cases m with
  | dispatch =>
      simp only [Pool.perform, h.session.pending]
      split
      · exact ⟨hsession .dispatch,
          congrArg (List.map fun _ => Stage.waiting) (hsession .dispatch).pending, h.strays⟩
      · exact h
  | visit i =>
      simp only [Pool.perform, h.stages, h.hasFreeWorker]
      split
      · exact ⟨h.session, rfl, h.strays⟩
      · exact h
  | finish i =>
      simp only [Pool.perform, h.stages]
      split
      · exact ⟨h.session, rfl, h.strays⟩
      · exact h
  | settle i =>
      simp only [Pool.perform, h.isReady, h.stages]
      split
      · exact ⟨hsession (.settle i), rfl, h.strays⟩
      · exact h
  | crash i =>
      simp only [Pool.perform, h.isReady, h.stages]
      split
      · exact ⟨hsession (.crash i), rfl, h.strays⟩
      · exact h
  | interrupt => exact ⟨hsession .interrupt, rfl, h.busy⟩
  | leave => exact ⟨h.session, h.stages, congrArg (· - 1) h.strays⟩

theorem replay (h : p.Alike q) (hsites : site.SamePages other) (moves : List Move) :
    (p.replay site rule moves).Alike (q.replay other rule moves) := by
  induction moves generalizing p q with
  | nil => exact h
  | cons m moves ih => exact ih (h.perform hsites m)

end Alike

end Pool

namespace Session

/-! ## What a crawl brings -/

/-- Whether two crawls have brought the same but for the faults: the same pages handed out in the
same order, the same pages visited and waiting, the same findings and the same counters. Their
tallies hold as many pages, as many errors and as many pages in each state that is no error. -/
structure SameButFaults (s t : Session) : Prop where
  dispatched : t.dispatched = s.dispatched
  scheduler : t.scheduler = s.scheduler
  pending : t.pending = s.pending
  findings : t.findings = s.findings
  visited : t.statistics.visited = s.statistics.visited
  classified : t.statistics.classified = s.statistics.classified
  linksEnqueued : t.statistics.linksEnqueued = s.statistics.linksEnqueued
  total : t.tally.total = s.tally.total
  errors : t.tally.errors = s.tally.errors
  count : ∀ state, state.isError = false → t.tally.count state = s.tally.count state

theorem Alike.sameButFaults {s t : Session} (h : s.Alike t) : s.SameButFaults t := by
  cases h with
  | mk tally htally =>
      exact
        { dispatched := rfl
          scheduler := rfl
          pending := rfl
          findings := rfl
          visited := rfl
          classified := rfl
          linksEnqueued := rfl
          total := htally.total
          errors := htally.errors
          count := fun _ => htally.count }

/-- Let two sites have the same pages, all other addresses failing on both of them, and let crawls
of the two go on from the same start. If the same happens to both, visits that end or break down and
interruptions among it, they bring the same but for the faults, and so they do if the workers do the
same at every point. Two runs in which the visits of the same pages end in the same order bring the
same but for the faults; in an order that ignores the tally they do so, and every run on one site
has such a counterpart on the other one. -/
theorem failures_contained {site other : Site} (hsites : site.SamePages other) (rule : Rule)
    (start : Url) (limits : Limits) :
    (∀ moves, ((new start limits).replay site rule moves).SameButFaults
      ((new start limits).replay other rule moves)) ∧
    (∀ moves,
      let p := (Pool.new start limits).replay site rule moves
      let q := (Pool.new start limits).replay other rule moves
      p.session.SameButFaults q.session ∧ q.stages = p.stages ∧ q.strays = p.strays) ∧
    (∀ order order', (new start limits).recorded site rule order (fun _ => false) =
        (new start limits).recorded other rule order' (fun _ => false) →
      ((new start limits).run site rule order).SameButFaults
        ((new start limits).run other rule order')) ∧
    (∀ order, IgnoresTally order → (new start limits).recorded other rule order (fun _ => false) =
      (new start limits).recorded site rule order fun _ => false) ∧
    ∀ order, ∃ order', (new start limits).recorded other rule order' (fun _ => false) =
      (new start limits).recorded site rule order fun _ => false := by
  have hnew : (new start limits).Alike (new start limits) := .refl _
  have hpool : (Pool.new start limits).Alike (Pool.new start limits) := ⟨hnew, rfl, rfl⟩
  refine ⟨fun moves => (hnew.replay hsites moves).sameButFaults, fun moves => ?_,
    fun order order' hlog => ?_, fun order horder => recorded_of_ignoresTally horder hsites hnew,
    exists_order_of_samePages hsites hnew⟩
  · have hmoves : ((Pool.new start limits).replay site rule moves).Alike
        ((Pool.new start limits).replay other rule moves) := hpool.replay hsites moves
    exact ⟨hmoves.session.sameButFaults, hmoves.stages, hmoves.strays⟩
  · exact (hnew.run (Orderly.new start limits) hsites hlog).sameButFaults

/-- Two detours on which `c` fails, in different ways: one crawl counts a page that cannot be
reached where the other one counts a request too many, and nothing else sets them apart. -/
theorem failures_contained_detour :
    let site := detour.failing ["http://[::1]/?c"] fun _ => .timeout
    let other := detour.failing ["http://[::1]/?c"] fun _ => .status 429
    let s := (new detourHome ⟨100, 3, 2⟩).run site (.oneOf []) inReverse
    let t := (new detourHome ⟨100, 3, 2⟩).run other (.oneOf []) inReverse
    site.SamePages other ∧ s.SameButFaults t ∧ s.tally.errors = 2 ∧
      s.tally.count .unreachable = 1 ∧ s.tally.count .rateLimited = 0 ∧
      t.tally.count .unreachable = 0 ∧ t.tally.count .rateLimited = 1 := by
  intro site other s t
  have hsites : site.SamePages other := detour.samePages_failing _ _ _
  obtain ⟨-, -, hruns, horders, -⟩ :=
    failures_contained hsites (.oneOf []) detourHome ⟨100, 3, 2⟩
  have hlog := horders inReverse fun _ _ => rfl
  have hcourse : let s := course site (.oneOf []) inReverse 14 (new detourHome ⟨100, 3, 2⟩)
      s.isFinished = true ∧ s.tally.errors = 2 ∧ s.tally.count .unreachable = 1 ∧
        s.tally.count .rateLimited = 0 := by
    decide +kernel
  have hcourse' : let t := course other (.oneOf []) inReverse 14 (new detourHome ⟨100, 3, 2⟩)
      t.isFinished = true ∧ t.tally.count .unreachable = 0 ∧ t.tally.count .rateLimited = 1 := by
    decide +kernel
  have hs : s = course site (.oneOf []) inReverse 14 (new detourHome ⟨100, 3, 2⟩) :=
    run_eq_course 14 hcourse.1
  have ht : t = course other (.oneOf []) inReverse 14 (new detourHome ⟨100, 3, 2⟩) :=
    run_eq_course 14 hcourse'.1
  refine ⟨hsites, hruns inReverse inReverse hlog.symm, ?_⟩
  rw [hs, ht]
  exact ⟨hcourse.2.1, hcourse.2.2.1, hcourse.2.2.2, hcourse'.2⟩

end Session

end Prospector
