import Mathlib.Data.List.Perm.Basic
import Mathlib.Data.Prod.Basic
import Prospector.Proofs.Crawl.Confluence

/-!
# Parts of crawls

What can happen between two states of a crawl, and which pages' visits end on the way. A run is such
a part up to its end or to where it stops, and since a run never comes back to a state, every part
that leads to the end of a crawl without an interruption is a run in some order.

## Main definitions

* `Session.recorded` : the pages whose visits end in a run, in that order.
* `Session.Unfolds` : a part of a crawl, with the pages whose visits end in it and those abandoned.
* `Session.pursue` : a run move by move, with the pages whose visits end.

## Main results

* `Session.Unfolds.exists_perm` : what becomes of the pages handed out.
* `Session.exists_unfolds_runUntil` : runs are parts of crawls.
* `Session.Unfolds.exists_order` : every part of a crawl up to its end is a run in some order.
-/

namespace Prospector.Session

/-! ## Parts -/

/-- The pages whose visits end until a crawl is finished or interrupted, the first one first. -/
def recorded (site : Site) (rule : Rule) (order : Order) (stop : Session → Bool) (s : Session) :
    List Entry :=
  if s.isFinished then []
  else if stop s then []
  else (s.next? order).toList ++
    recorded site rule order stop (s.perform site rule (s.nextMove order))
termination_by s.remaining
decreasing_by exact remaining_perform_nextMove _ _ _ _ (by simp_all)

/-- A part of a crawl: from a state to another one the visits of the pages `ended` end in this
order, and the pages `gone` are abandoned. A batch is handed out when there is one. -/
inductive Unfolds (site : Site) (rule : Rule) :
    Session → List Entry → List Entry → Session → Prop
  | refl (s : Session) : Unfolds site rule s [] [] s
  | dispatch {s t : Session} {ended gone : List Entry} : s.pending = [] →
      s.scheduler.isFinished = false → Unfolds site rule s.dispatch ended gone t →
      Unfolds site rule s ended gone t
  | settle {s t : Session} {ended gone : List Entry} {i : Nat} {e : Entry} :
      s.pending[i]? = some e → Unfolds site rule (s.settle site rule i) ended gone t →
      Unfolds site rule s (e :: ended) gone t
  | interrupt {s t : Session} {ended gone : List Entry} :
      Unfolds site rule s.interrupt ended gone t →
      Unfolds site rule s ended (s.pending ++ gone) t

theorem interrupt_of_pending_eq_nil {s : Session} (h : s.pending = []) : s.interrupt = s := by
  cases s
  subst h
  rfl

namespace Unfolds

variable {site : Site} {rule : Rule} {s t u : Session} {ended gone : List Entry}

theorem trans {ended' gone' : List Entry} (h : Unfolds site rule s ended gone t)
    (h' : Unfolds site rule t ended' gone' u) :
    Unfolds site rule s (ended ++ ended') (gone ++ gone') u := by
  induction h with
  | refl => exact h'
  | dispatch hpending hopen _ ih => exact (ih h').dispatch hpending hopen
  | settle hget _ ih => exact (ih h').settle hget
  | interrupt _ ih =>
      rw [List.append_assoc]
      exact (ih h').interrupt

theorem orderly (h : Unfolds site rule s ended gone t) (horderly : s.Orderly) : t.Orderly := by
  induction h with
  | refl => exact horderly
  | dispatch _ _ _ ih => exact ih horderly.dispatch
  | settle hget _ ih =>
      rw [settle_of_some site rule hget] at ih
      exact ih (horderly.takeIn _ _ _)
  | interrupt _ ih => exact ih horderly.interrupt

/-- What became of the pages: those that were being visited and those handed out since have ended,
were abandoned or are being visited. -/
theorem exists_perm (h : Unfolds site rule s ended gone t) (horderly : s.Orderly) :
    ∃ later, t.dispatched = s.dispatched ++ later ∧
      (ended ++ (gone ++ t.pending)).Perm (s.pending ++ later) := by
  induction h with
  | refl s => exact ⟨[], (List.append_nil _).symm, by simp⟩
  | @dispatch s t ended gone hpending hopen _ ih =>
      obtain ⟨later, hdispatched, hperm⟩ := ih horderly.dispatch
      refine ⟨s.batch ++ later, ?_, ?_⟩
      · rw [hdispatched, dispatched_dispatch horderly, List.append_assoc]
      · rw [hpending, List.nil_append]
        rw [pending_dispatch horderly] at hperm
        exact hperm
  | @settle s t ended gone i e hget _ ih =>
      rw [settle_of_some site rule hget] at ih
      obtain ⟨later, hdispatched, hperm⟩ := ih (horderly.takeIn _ _ _)
      obtain ⟨hlt, rfl⟩ := List.getElem?_eq_some_iff.1 hget
      refine ⟨later, hdispatched, ?_⟩
      rw [pending_takeIn] at hperm
      have hmove := (List.getElem_cons_eraseIdx_perm hlt).append_right later
      exact (hperm.cons _).trans hmove
  | @interrupt s t ended gone _ ih =>
      obtain ⟨later, hdispatched, hperm⟩ := ih horderly.interrupt
      refine ⟨later, hdispatched, ?_⟩
      have hperm' : (ended ++ (gone ++ t.pending)).Perm later := hperm
      rw [List.append_assoc]
      exact (List.perm_append_comm_assoc _ _ _).trans (hperm'.append_left _)

/-- Findings stay. -/
theorem findings_subset (h : Unfolds site rule s ended gone t) :
    s.findings.byUrl ⊆ t.findings.byUrl := by
  induction h with
  | refl => exact List.Subset.refl _
  | dispatch _ _ _ ih => exact ih
  | @settle s t ended gone i e hget _ ih =>
      refine List.Subset.trans ?_ ih
      rw [settle_of_some site rule hget, findings_takeIn]
      split
      · exact fun m hm => Findings.mem_insertNew_of_mem _ _ hm
      · exact List.Subset.refl _
  | interrupt _ ih => exact ih

/-- What a crawl that is not interrupted has handed out has ended or is being visited. -/
theorem perm_dispatched (h : Unfolds site rule s ended [] t) (hs : s.Orderly)
    (hnew : s.dispatched = []) :
    (ended ++ t.pending).Perm t.dispatched := by
  obtain ⟨later, hdispatched, hperm⟩ := h.exists_perm hs
  have hidle : s.pending = [] := List.eq_nil_of_sublist_nil (hnew ▸ hs.pending)
  rw [hidle] at hperm
  rw [hdispatched, hnew]
  exact hperm

end Unfolds

/-! ## Runs as parts of crawls -/

section Runs

variable {site : Site} {rule : Rule} {s t : Session} {order : Order}

/-- A run is a part of a crawl without interruptions, up to its end or to where it stops. -/
theorem exists_unfolds_runUntil (site : Site) (rule : Rule) (order : Order) (stop : Session → Bool)
    (s : Session) : ∃ t, Unfolds site rule s (s.recorded site rule order stop) [] t ∧
      (t.isFinished = true ∧ s.runUntil site rule order stop = (false, t) ∨
        stop t = true ∧ s.runUntil site rule order stop = (true, t.interrupt)) := by
  fun_induction runUntil site rule order stop s with
  | case1 s hfinished =>
      rw [recorded, if_pos hfinished]
      exact ⟨s, .refl s, .inl ⟨hfinished, rfl⟩⟩
  | case2 s hfinished hstop =>
      rw [recorded, if_neg hfinished, if_pos hstop]
      exact ⟨s, .refl s, .inr ⟨hstop, rfl⟩⟩
  | case3 s hfinished hstop ih =>
      obtain ⟨t, hunfolds, hend⟩ := ih
      refine ⟨t, ?_, hend⟩
      rw [recorded, if_neg hfinished, if_neg hstop]
      by_cases hpending : s.pending = []
      · obtain ⟨hmove, hnext⟩ := nextMove_of_pending_eq_nil order hpending
        rw [hmove, perform_dispatch site rule hpending] at hunfolds
        rw [hmove, hnext, perform_dispatch site rule hpending]
        refine hunfolds.dispatch hpending ?_
        simpa [isFinished, hpending] using hfinished
      · obtain ⟨e, he⟩ := exists_next order hpending
        obtain ⟨hmove, hnext⟩ := nextMove_of_some he
        rw [hmove] at hunfolds
        rw [hmove, hnext]
        exact hunfolds.settle he

/-- A run that is not stopped is a part of a crawl up to its end. -/
theorem unfolds_run (site : Site) (rule : Rule) (order : Order) (s : Session) :
    Unfolds site rule s (s.recorded site rule order fun _ => false) [] (s.run site rule order) := by
  obtain ⟨t, hunfolds, ⟨-, hrun⟩ | ⟨hstop, -⟩⟩ :=
    exists_unfolds_runUntil site rule order (fun _ => false) s
  · rw [run, hrun]
    exact hunfolds
  · cases hstop

theorem run_of_isFinished (site : Site) (rule : Rule) (order : Order)
    (h : s.isFinished = true) :
    s.run site rule order = s ∧ s.recorded site rule order (fun _ => false) = [] := by
  rw [run, runUntil, recorded, if_pos h, if_pos h]
  exact ⟨rfl, rfl⟩

theorem run_of_not_isFinished (site : Site) (rule : Rule) (order : Order)
    (h : s.isFinished = false) :
    s.run site rule order = (s.perform site rule (s.nextMove order)).run site rule order ∧
      s.recorded site rule order (fun _ => false) = (s.next? order).toList ++
        (s.perform site rule (s.nextMove order)).recorded site rule order fun _ => false := by
  have hne : ¬s.isFinished = true := by simp [h]
  constructor
  · rw [run, runUntil, if_neg hne, if_neg Bool.false_ne_true, run]
  · rw [recorded, if_neg hne, if_neg Bool.false_ne_true]

/-- Whether less is left to do in one state than in another one. -/
def IsAhead (s t : Session) : Prop :=
  Prod.Lex (· < ·) (Prod.Lex (· < ·) (· < ·)) s.remaining t.remaining

theorem IsAhead.ne (h : s.IsAhead t) : s ≠ t := by
  rintro rfl
  exact irrefl_of (Prod.Lex (· < ·) (Prod.Lex (· < ·) (· < ·))) s.remaining h

/-- A run depends on what the order says ahead only. -/
theorem run_congr (site : Site) (rule : Rule) {order' : Order}
    (h : ∀ x : Session, x.IsAhead t → order x = order' x) (hs : s.IsAhead t) :
    s.run site rule order = s.run site rule order' ∧
      s.recorded site rule order (fun _ => false) =
        s.recorded site rule order' fun _ => false := by
  fun_induction recorded site rule order (fun _ => false) s with
  | case1 s hfinished =>
      obtain ⟨hrun, -⟩ := run_of_isFinished site rule order hfinished
      obtain ⟨hrun', hrecorded'⟩ := run_of_isFinished site rule order' hfinished
      exact ⟨hrun.trans hrun'.symm, hrecorded'.symm⟩
  | case2 s _ hstop => cases hstop
  | case3 s hfinished _ ih =>
      have hnext : s.nextIndex order = s.nextIndex order' := by rw [nextIndex, nextIndex, h s hs]
      have hmove : s.nextMove order = s.nextMove order' := by rw [nextMove, nextMove, hnext]
      have hpage : s.next? order = s.next? order' := by rw [next?, next?, hnext]
      have hopen : s.isFinished = false := by simpa using hfinished
      have hahead : (s.perform site rule (s.nextMove order)).IsAhead t :=
        (remaining_perform_nextMove site rule order s hopen).trans hs
      obtain ⟨hrun, hrecorded⟩ := ih hahead
      obtain ⟨hstep, -⟩ := run_of_not_isFinished site rule order hopen
      obtain ⟨hstep', hrecorded'⟩ := run_of_not_isFinished site rule order' hopen
      rw [hstep, hstep', hrecorded', hrun, hrecorded, hmove, hpage]
      exact ⟨rfl, rfl⟩

/-- Every part of a crawl that leads to its end without interruptions is a run in some order. -/
theorem Unfolds.exists_order {ended gone : List Entry} (h : Unfolds site rule s ended gone t)
    (hgone : gone = []) (ht : t.isFinished = true) :
    ∃ order, s.run site rule order = t ∧
      s.recorded site rule order (fun _ => false) = ended := by
  induction h with
  | refl s => exact ⟨inTurn, run_of_isFinished site rule inTurn ht⟩
  | @dispatch s t ended gone hpending hopen _ ih =>
      obtain ⟨order, hrun, hrecorded⟩ := ih hgone ht
      have hgoes : s.isFinished = false := by rw [isFinished, hopen, Bool.and_false]
      obtain ⟨hmove, hnext⟩ := nextMove_of_pending_eq_nil order hpending
      obtain ⟨hstep, hrecorded'⟩ := run_of_not_isFinished site rule order hgoes
      rw [hmove, perform_dispatch site rule hpending] at hstep hrecorded'
      refine ⟨order, hstep.trans hrun, ?_⟩
      rw [hrecorded', hnext, hrecorded]
      rfl
  | @settle s t ended gone i e hget _ ih =>
      -- the order is changed in this state only, and a run never comes back to a state
      obtain ⟨order, hrun, hrecorded⟩ := ih hgone ht
      obtain ⟨hlt, -⟩ := List.getElem?_eq_some_iff.1 hget
      have hindex : s.nextIndex (Function.update order s i) = i := by
        rw [nextIndex, Function.update_self, Nat.mod_eq_of_lt hlt]
      have hget' : s.pending[s.nextIndex (Function.update order s i)]? = some e := by
        rw [hindex]
        exact hget
      obtain ⟨hmove, hnext⟩ := nextMove_of_some hget'
      rw [hindex] at hmove
      have hgoes : s.isFinished = false := by
        have hne : s.pending ≠ [] := List.ne_nil_of_mem (List.mem_of_getElem? hget)
        simp [isFinished, hne]
      obtain ⟨hstep, hrecorded'⟩ :=
        run_of_not_isFinished site rule (Function.update order s i) hgoes
      have hahead := remaining_perform_nextMove site rule (Function.update order s i) s hgoes
      rw [hmove] at hstep hrecorded' hahead
      obtain ⟨hsame, hsame'⟩ := run_congr site rule
        (fun x hx => Function.update_of_ne (IsAhead.ne hx) i order) hahead
      refine ⟨Function.update order s i, (hstep.trans hsame).trans hrun, ?_⟩
      rw [hrecorded', hnext, hsame']
      exact congrArg (e :: ·) hrecorded
  | @interrupt s t ended gone _ ih =>
      obtain ⟨hpending, hrest⟩ := List.append_eq_nil_iff.1 hgone
      rw [interrupt_of_pending_eq_nil hpending] at ih
      exact ih hrest ht

end Runs

/-! ## Runs move by move -/

/-- The pages whose visits end in so many moves of a run, or until it stops if that comes first, and
the crawl then. -/
def pursue (site : Site) (rule : Rule) (order : Order) (stop : Session → Bool) :
    Nat → Session → List Entry × Session
  | 0, s => ([], s)
  | n + 1, s =>
    if s.isFinished || stop s then ([], s)
    else
      let (log, t) := pursue site rule order stop n (s.perform site rule (s.nextMove order))
      ((s.next? order).toList ++ log, t)

/-- What a run records can be computed move by move. -/
theorem recorded_eq_pursue {site : Site} {rule : Rule} {order : Order} {stop : Session → Bool}
    (n : Nat) {s : Session}
    (h : ((pursue site rule order stop n s).2.isFinished ||
      stop (pursue site rule order stop n s).2) = true) :
    s.recorded site rule order stop = (pursue site rule order stop n s).1 ∧
      (s.runUntil site rule order stop).2 = (pursue site rule order stop n s).2.interrupt := by
  have hstop : ∀ s : Session, (s.isFinished || stop s) = true →
      s.recorded site rule order stop = [] ∧
        (s.runUntil site rule order stop).2 = s.interrupt := by
    intro s hend
    rw [recorded, runUntil]
    by_cases hfinished : s.isFinished = true
    · rw [if_pos hfinished, if_pos hfinished]
      exact ⟨rfl, (interrupt_of_pending_eq_nil (pending_eq_nil_of_isFinished hfinished)).symm⟩
    · have hstops : stop s = true := by simpa [hfinished] using hend
      rw [if_neg hfinished, if_neg hfinished, if_pos hstops, if_pos hstops]
      exact ⟨rfl, rfl⟩
  induction n generalizing s with
  | zero => exact hstop s h
  | succ n ih =>
      unfold pursue at h ⊢
      by_cases hend : (s.isFinished || stop s) = true
      · rw [if_pos hend]
        exact hstop s hend
      · rw [if_neg hend] at h ⊢
        obtain ⟨hrecorded, hrun⟩ := ih h
        have hgoes : ¬s.isFinished = true ∧ ¬stop s = true := by simpa using hend
        rw [recorded, runUntil, if_neg hgoes.1, if_neg hgoes.1, if_neg hgoes.2, if_neg hgoes.2,
          hrecorded, hrun]
        exact ⟨rfl, rfl⟩

end Prospector.Session
