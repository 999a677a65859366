import Mathlib.Data.List.InsertIdx
import Prospector.Crawl.Crew
import Prospector.Proofs.Crawl.Agenda

/-!
# When links are looked up makes no difference

Workers leave out links to pages that they find visited, and they look while the visited set may
change under them. Pages never leave the set, so a link that is left out is known to the frontier
when the outcome is taken in, and would not be put on it anyway. What a worker passes on and what it
has still to look at, links to visited pages left out, is at every moment what its page links to,
links to visited pages left out: this is the invariant of a crew, whatever its workers do.

It does not matter in which state the crawl is when the workers begin, nor whether the visited set
is part of the queued one.

## Main results

* `Session.takeIn_without` : leaving out links to visited pages changes nothing.
* `Crew.Faithful.perform` : the invariant.
* `Crew.Faithful.session_perform` : what happens to a crew is something that happens to the crawl.
* `Crew.lookups_benign` : crews that look links up and crews that pass on every link bring about the
  same crawls, and these are the courses of the crawl itself.
-/

namespace Prospector

namespace Session

/-! ## Links to visited pages -/

/-- Leaving out links to visited pages makes no difference to what is put on the frontier. -/
theorem takeIn_without (s : Session) (i : Nat) (e : Entry) (o : Outcome) :
    s.takeIn i e (o.without s.scheduler.visited) = s.takeIn i e o := by
  have hnovel : s.scheduler.novel (o.without s.scheduler.visited).links =
      s.scheduler.novel o.links := by
    refine s.scheduler.novel_filter o.links _ fun url hleft => ?_
    have hvisited : s.scheduler.visited.contains url = true := by simpa using hleft
    rw [Scheduler.knows, hvisited, Bool.true_or]
  have haccepted : s.scheduler.accepted e.depth (o.without s.scheduler.visited).links =
      s.scheduler.accepted e.depth o.links := by
    rw [Scheduler.accepted, hnovel, Scheduler.accepted]
  simp only [takeIn, record, Scheduler.enqueueLinks_eq, haccepted, Outcome.state_without,
    Outcome.classification_without]

/-- Outcomes that differ in links to visited pages only have the same effect. -/
theorem takeIn_congr {s : Session} {o p : Outcome}
    (h : o.without s.scheduler.visited = p.without s.scheduler.visited) (i : Nat) (e : Entry) :
    s.takeIn i e o = s.takeIn i e p := by
  rw [← takeIn_without s i e o, h, takeIn_without]

theorem pending_settleWith (s : Session) (outcome : Entry → Outcome) (i : Nat) :
    (s.settleWith outcome i).pending = s.pending.eraseIdx i := by
  cases hget : s.pending[i]? with
  | none =>
      rw [settleWith_of_none _ hget, List.eraseIdx_of_length_le (List.getElem?_eq_none_iff.1 hget)]
  | some e => rw [settleWith_of_some _ hget, pending_takeIn]

theorem visited_settleWith (s : Session) (outcome : Entry → Outcome) (i : Nat) :
    (s.settleWith outcome i).scheduler.visited = s.scheduler.visited := by
  cases hget : s.pending[i]? with
  | none => rw [settleWith_of_none _ hget]
  | some e => rw [settleWith_of_some _ hget, visited_takeIn]

end Session

/-! ## What a worker owes -/

/-- Whether a sieve holds back links to visited pages only. -/
def Sieve.Honest (sieve : Sieve) : Prop :=
  ∀ visited url, sieve visited url = false → visited.contains url = true

theorem Sieve.honest_unvisited : Sieve.unvisited.Honest := by
  intro visited url h
  simpa [Sieve.unvisited] using h

theorem Sieve.honest_everything : Sieve.everything.Honest :=
  fun _ _ h => absurd h Bool.noConfusion

theorem VisitedSet.contains_visit (v : VisitedSet) (marked url : String)
    (h : v.contains url = true) : (v.visit marked).2.contains url = true := by
  unfold visit
  split
  · exact h
  · rw [contains, List.contains_cons]
    exact Bool.or_eq_true_iff.2 (.inr h)

namespace Worker

/-- The links that a worker passes on or has still to look at, those to visited pages left out. -/
def owed (visited : VisitedSet) (w : Worker) : List String :=
  (w.kept ++ w.ahead).filter (Sieve.unvisited visited)

/-- Looking at a link changes nothing about what a worker owes. -/
theorem owed_look {sieve : Sieve} (h : sieve.Honest) (visited : VisitedSet) (w : Worker) :
    (w.look sieve visited).owed visited = w.owed visited := by
  obtain ⟨ahead, kept⟩ := w
  cases ahead with
  | nil => rfl
  | cons url ahead =>
      simp only [look, owed]
      split
      · rw [List.append_assoc, List.singleton_append]
      · next hdropped =>
        have hvisited := h visited url (Bool.eq_false_iff.2 hdropped)
        rw [List.filter_append, List.filter_append,
          List.filter_cons_of_neg (by simp [Sieve.unvisited, hvisited])]

/-- When more pages are visited, a worker owes fewer links. -/
theorem owed_of_subset {visited later : VisitedSet}
    (h : ∀ url, visited.contains url = true → later.contains url = true) (w : Worker) :
    w.owed later = (w.owed visited).filter (Sieve.unvisited later) := by
  rw [owed, owed, List.filter_filter]
  refine List.filter_congr fun url _ => ?_
  have hsub := h url
  simp only [Sieve.unvisited]
  cases hvisited : visited.contains url with
  | false => simp
  | true => simp [hsub hvisited]

theorem ahead_look (sieve : Sieve) (visited : VisitedSet) (w : Worker) :
    (w.look sieve visited).ahead = w.ahead.tail := by
  obtain ⟨ahead, kept⟩ := w
  cases ahead <;> rfl

/-- A worker that has looked at all links and owes what its page links to passes on what is taken
in. -/
theorem without_outcome {site : Site} {rule : Rule} {visited : VisitedSet} {w : Worker} {e : Entry}
    (hdone : w.ahead = []) (howed : w.owed visited = (start site rule e).owed visited) :
    (w.outcome site rule e).without visited =
      (Outcome.ofVisit site rule e.url).without visited := by
  rw [owed, hdone, List.append_nil] at howed
  simp only [Outcome.without, outcome, Outcome.mk.injEq, true_and]
  exact howed

end Worker

namespace Crew

section Crews

variable {site : Site} {rule : Rule} {sieve : Sieve} {c : Crew}

/-! ## The invariant -/

/-- Whether every worker owes what its page links to. -/
def Faithful (site : Site) (rule : Rule) (c : Crew) : Prop :=
  c.workers.map (Worker.owed c.session.scheduler.visited) =
    c.session.pending.map fun e => (Worker.start site rule e).owed c.session.scheduler.visited

theorem faithful_ofSession (site : Site) (rule : Rule) (s : Session) :
    (ofSession site rule s).Faithful site rule := by
  rw [Faithful, ofSession, List.map_map]
  rfl

namespace Faithful

/-- There is a worker for every page that the crawl waits for. -/
theorem exists_pending (h : c.Faithful site rule) {i : Nat} {w : Worker}
    (hw : c.workers[i]? = some w) :
    ∃ e, c.session.pending[i]? = some e ∧
      w.owed c.session.scheduler.visited =
        (Worker.start site rule e).owed c.session.scheduler.visited := by
  have hget := congrArg (·[i]?) h
  simp only [List.getElem?_map, hw, Option.map_some] at hget
  obtain ⟨e, he, howed⟩ := Option.map_eq_some_iff.1 hget.symm
  exact ⟨e, he, howed.symm⟩

theorem exists_worker (h : c.Faithful site rule) {i : Nat} {e : Entry}
    (he : c.session.pending[i]? = some e) : ∃ w, c.workers[i]? = some w := by
  have hlength := congrArg List.length h
  rw [List.length_map, List.length_map] at hlength
  obtain ⟨hlt, -⟩ := List.getElem?_eq_some_iff.1 he
  exact ⟨_, List.getElem?_eq_getElem (hlength ▸ hlt)⟩

/-- What is taken in from a worker that has looked at all links is what the crawl takes in. -/
theorem settleWith_outcome (h : c.Faithful site rule) {i : Nat} {w : Worker}
    (hw : c.workers[i]? = some w) (hdone : w.ahead = []) :
    c.session.settleWith (w.outcome site rule) i = c.session.settle site rule i := by
  obtain ⟨e, he, howed⟩ := h.exists_pending hw
  rw [Session.settleWith_of_some _ he, Session.settle_of_some site rule he,
    Session.takeIn_without]
  exact Session.takeIn_congr (Worker.without_outcome hdone howed) i e

theorem look (h : c.Faithful site rule) (hsieve : sieve.Honest) (i : Nat) :
    (c.perform site rule sieve (.look i)).Faithful site rule := by
  simp only [Crew.perform]
  split
  · next w hw =>
    obtain ⟨hlt, rfl⟩ := List.getElem?_eq_some_iff.1 hw
    rw [Faithful, List.map_set, Worker.owed_look hsieve]
    have hsame : (c.workers.map (Worker.owed c.session.scheduler.visited)).set i
        (c.workers[i].owed c.session.scheduler.visited) =
          c.workers.map (Worker.owed c.session.scheduler.visited) := by
      rw [← List.map_set, List.set_getElem_self]
    rw [hsame]
    exact h
  · exact h

/-- A worker whose outcome is taken in, or whose visit broke down, leaves the others as they are. -/
theorem settleWith (h : c.Faithful site rule) (outcome : Entry → Outcome) (i : Nat) :
    ({ session := c.session.settleWith outcome i
       workers := c.workers.eraseIdx i } : Crew).Faithful site rule := by
  rw [Faithful, Session.pending_settleWith, Session.visited_settleWith, ← List.eraseIdx_map,
    ← List.eraseIdx_map, h]

theorem mark (h : c.Faithful site rule) (url : String) :
    (c.perform site rule sieve (.mark url)).Faithful site rule := by
  have hgrows : ∀ u, c.session.scheduler.visited.contains u = true →
      (c.session.scheduler.visit url).2.visited.contains u = true :=
    fun u => c.session.scheduler.visited.contains_visit url u
  have hmap := congrArg
    (List.map (List.filter (Sieve.unvisited (c.session.scheduler.visit url).2.visited))) h
  simp only [List.map_map] at hmap
  unfold Faithful
  simp only [Crew.perform]
  refine Eq.trans ?_ (hmap.trans ?_)
  · exact List.map_congr_left fun w _ => Worker.owed_of_subset hgrows w
  · exact List.map_congr_left fun e _ => (Worker.owed_of_subset hgrows _).symm

/-- Whatever happens, every worker owes what its page links to. -/
theorem perform (h : c.Faithful site rule) (hsieve : sieve.Honest) (m : Move) :
    (c.perform site rule sieve m).Faithful site rule := by
  cases m with
  | dispatch =>
      simp only [Crew.perform]
      split
      · exact faithful_ofSession site rule _
      · exact h
  | look i => exact h.look hsieve i
  | settle i =>
      simp only [Crew.perform]
      split
      · split
        · exact h.settleWith _ i
        · exact h
      · exact h
  | crash i => exact h.settleWith _ i
  | interrupt => rfl
  | mark url => exact h.mark url

theorem replay (h : c.Faithful site rule) (hsieve : sieve.Honest) (moves : List Move) :
    (c.replay site rule sieve moves).Faithful site rule := by
  induction moves generalizing c with
  | nil => exact h
  | cons m moves ih => exact ih (h.perform hsieve m)

/-! ## Crews and crawls -/

/-- What happens to a crew leaves the crawl as it is or is something that can happen to it, unless
somebody else marks a page. -/
theorem session_perform (h : c.Faithful site rule) (sieve : Sieve) {m : Move}
    (hmark : ∀ url, m ≠ .mark url) :
    (c.perform site rule sieve m).session = c.session ∨
      ∃ move, (c.perform site rule sieve m).session = c.session.perform site rule move := by
  cases m with
  | dispatch =>
      by_cases hpending : c.session.pending.isEmpty = true
      · refine .inr ⟨.dispatch, ?_⟩
        simp only [Crew.perform, Session.perform, if_pos hpending, ofSession]
      · exact .inl (by simp only [Crew.perform, if_neg hpending])
  | look i =>
      refine .inl ?_
      simp only [Crew.perform]
      split <;> rfl
  | settle i =>
      simp only [Crew.perform]
      split
      · next w hw =>
        split
        · next hdone => exact .inr ⟨.settle i, h.settleWith_outcome hw (List.isEmpty_iff.1 hdone)⟩
        · exact .inl rfl
      · exact .inl rfl
  | crash i => exact .inr ⟨.crash i, rfl⟩
  | interrupt => exact .inr ⟨.interrupt, rfl⟩
  | mark url => exact absurd rfl (hmark url)

/-- As long as nobody else marks pages, a crew goes through states of the crawl. -/
theorem exists_course (h : c.Faithful site rule) (hsieve : sieve.Honest) {moves : List Move}
    (hmarks : ∀ url, .mark url ∉ moves) :
    ∃ course, (c.replay site rule sieve moves).session = c.session.replay site rule course := by
  induction moves generalizing c with
  | nil => exact ⟨[], rfl⟩
  | cons m moves ih =>
      obtain ⟨course, hcourse⟩ := ih (h.perform hsieve m)
        fun url hmem => hmarks url (List.mem_cons_of_mem m hmem)
      have hmark : ∀ url, m ≠ .mark url := fun url heq => hmarks url (heq ▸ List.mem_cons_self)
      rcases h.session_perform sieve hmark with hsame | ⟨move, hmove⟩
      · exact ⟨course, by rw [← hsame]; exact hcourse⟩
      · exact ⟨move :: course, hcourse.trans (by rw [hmove]; rfl)⟩

end Faithful

/-! ## Crews with different sieves -/

/-- Whether two crews have the same crawl and their workers have come equally far. -/
structure Abreast (c d : Crew) : Prop where
  session : d.session = c.session
  ahead : d.workers.map Worker.ahead = c.workers.map Worker.ahead

namespace Abreast

variable {d : Crew} {other : Sieve}

theorem exists_worker (h : c.Abreast d) {i : Nat} {w : Worker} (hw : c.workers[i]? = some w) :
    ∃ w', d.workers[i]? = some w' ∧ w'.ahead = w.ahead := by
  have hget := congrArg (·[i]?) h.ahead
  simp only [List.getElem?_map, hw, Option.map_some] at hget
  exact Option.map_eq_some_iff.1 hget

theorem getElem?_eq_none (h : c.Abreast d) {i : Nat} (hw : c.workers[i]? = none) :
    d.workers[i]? = none := by
  have hget := congrArg (·[i]?) h.ahead
  simp only [List.getElem?_map, hw, Option.map_none] at hget
  exact Option.map_eq_none_iff.1 hget

theorem settleWith (h : c.Abreast d) {outcome outcome' : Entry → Outcome} {i : Nat}
    (hsession : d.session.settleWith outcome' i = c.session.settleWith outcome i) :
    Abreast { session := c.session.settleWith outcome i, workers := c.workers.eraseIdx i }
      { session := d.session.settleWith outcome' i, workers := d.workers.eraseIdx i } where
  session := hsession
  ahead := by rw [← List.eraseIdx_map, ← List.eraseIdx_map, h.ahead]

/-- Whatever happens keeps crews abreast, though they pass on different links. -/
theorem perform (h : c.Abreast d) (hc : c.Faithful site rule) (hd : d.Faithful site rule)
    (m : Move) : (c.perform site rule sieve m).Abreast (d.perform site rule other m) := by
  cases m with
  | dispatch =>
      simp only [Crew.perform, h.session]
      split
      · exact ⟨rfl, rfl⟩
      · exact h
  | look i =>
      simp only [Crew.perform]
      cases hw : c.workers[i]? with
      | none =>
          rw [h.getElem?_eq_none hw]
          exact h
      | some w =>
          obtain ⟨w', hw', hahead⟩ := h.exists_worker hw
          rw [hw']
          refine ⟨h.session, ?_⟩
          rw [List.map_set, List.map_set, Worker.ahead_look, Worker.ahead_look, hahead, h.ahead]
  | settle i =>
      simp only [Crew.perform]
      cases hw : c.workers[i]? with
      | none =>
          rw [h.getElem?_eq_none hw]
          exact h
      | some w =>
          obtain ⟨w', hw', hahead⟩ := h.exists_worker hw
          rw [hw']
          simp only [hahead]
          split
          · next hdone =>
            have hdone := List.isEmpty_iff.1 hdone
            refine h.settleWith ?_
            rw [hd.settleWith_outcome hw' (hahead.trans hdone), hc.settleWith_outcome hw hdone,
              h.session]
          · exact h
  | crash i => exact h.settleWith (by rw [h.session])
  | interrupt => exact ⟨congrArg Session.interrupt h.session, rfl⟩
  | mark url =>
      refine ⟨?_, h.ahead⟩
      simp only [Crew.perform, h.session]

theorem replay (h : c.Abreast d) (hc : c.Faithful site rule) (hd : d.Faithful site rule)
    (hsieve : sieve.Honest) (hother : other.Honest) (moves : List Move) :
    (c.replay site rule sieve moves).Abreast (d.replay site rule other moves) := by
  induction moves generalizing c d with
  | nil => exact h
  | cons m moves ih => exact ih (h.perform hc hd m) (hc.perform hsieve m) (hd.perform hother m)

end Abreast

end Crews

/-! ## Lookups hold nothing up -/

section Lookups

variable (site : Site) (rule : Rule) {sieve : Sieve}

theorem replay_append (c : Crew) (first second : List Move) :
    c.replay site rule sieve (first ++ second) =
      (c.replay site rule sieve first).replay site rule sieve second :=
  List.foldl_append

/-- A worker can look at all its links. -/
theorem exists_replay_look (sieve : Sieve) (c : Crew) {i : Nat} {w : Worker}
    (hw : c.workers[i]? = some w) :
    ∃ n w', w'.ahead = [] ∧
      c.replay site rule sieve (List.replicate n (.look i)) =
        { c with workers := c.workers.set i w' } := by
  obtain ⟨hlt, hget⟩ := List.getElem?_eq_some_iff.1 hw
  generalize hahead : w.ahead = ahead
  induction ahead generalizing c w with
  | nil =>
      refine ⟨0, w, hahead, ?_⟩
      rw [← hget, List.set_getElem_self]
      rfl
  | cons url ahead ih =>
      let next := w.look sieve c.session.scheduler.visited
      have hlook : c.perform site rule sieve (.look i) =
          { c with workers := c.workers.set i next } := by
        simp only [Crew.perform, hw]
        rfl
      have hlt' : i < (c.workers.set i next).length := by rwa [List.length_set]
      obtain ⟨n, w', hdone, hrest⟩ := ih { c with workers := c.workers.set i next }
        (List.getElem?_set_self hlt) hlt' (List.getElem_set_self hlt')
        (by rw [Worker.ahead_look, hahead, List.tail_cons])
      refine ⟨n + 1, w', hdone, ?_⟩
      rw [List.replicate_succ, replay, List.foldl_cons, hlook]
      exact hrest.trans (by rw [List.set_set])

/-- The workers can follow the crawl through anything that happens to it. -/
theorem exists_replay_perform (hsieve : sieve.Honest) (s : Session) (move : Session.Move) :
    ∃ moves, (∀ url, .mark url ∉ moves) ∧
      (ofSession site rule s).replay site rule sieve moves =
        ofSession site rule (s.perform site rule move) := by
  have hfaithful := faithful_ofSession site rule s
  have herase : ∀ outcome i, ofSession site rule (s.settleWith outcome i) =
      { session := s.settleWith outcome i
        workers := (ofSession site rule s).workers.eraseIdx i } := by
    intro outcome i
    simp only [ofSession, Session.pending_settleWith, List.eraseIdx_map]
  cases move with
  | dispatch =>
      refine ⟨[.dispatch], by simp, ?_⟩
      simp only [replay, List.foldl_cons, List.foldl_nil, Crew.perform, Session.perform]
      show (if s.pending.isEmpty then _ else _) = _
      split <;> rfl
  | settle i =>
      cases he : s.pending[i]? with
      | none =>
          refine ⟨[], by simp, ?_⟩
          rw [Session.perform, Session.settle, Session.settleWith_of_none _ he]
          rfl
      | some e =>
          -- the worker looks at all its links before anything else happens
          obtain ⟨w, hw⟩ := hfaithful.exists_worker he
          obtain ⟨n, w', hdone, hlooks⟩ := exists_replay_look site rule sieve _ hw
          refine ⟨List.replicate n (.look i) ++ [.settle i], by simp [List.mem_replicate], ?_⟩
          have hkept := hfaithful.replay hsieve (List.replicate n (.look i))
          rw [hlooks] at hkept
          have hw' : ((ofSession site rule s).workers.set i w')[i]? = some w' :=
            List.getElem?_set_self (List.getElem?_eq_some_iff.1 hw).1
          have hsettle := hkept.settleWith_outcome hw' hdone
          rw [replay_append, hlooks, replay, List.foldl_cons, List.foldl_nil]
          simp only [Crew.perform, hw', hdone, List.isEmpty_nil, if_true, List.eraseIdx_set_eq]
          rw [hsettle]
          exact (herase _ i).symm
  | crash i =>
      refine ⟨[.crash i], by simp, ?_⟩
      exact (herase _ i).symm
  | interrupt => exact ⟨[.interrupt], by simp, rfl⟩

/-- Every course of a crawl is one that a crew can bring about. -/
theorem exists_replay (hsieve : sieve.Honest) (s : Session) (course : List Session.Move) :
    ∃ moves, (∀ url, .mark url ∉ moves) ∧
      (ofSession site rule s).replay site rule sieve moves =
        ofSession site rule (s.replay site rule course) := by
  induction course generalizing s with
  | nil => exact ⟨[], by simp, rfl⟩
  | cons move course ih =>
      obtain ⟨first, hfirst, hmove⟩ := exists_replay_perform site rule hsieve s move
      obtain ⟨second, hsecond, hcourse⟩ := ih (s.perform site rule move)
      refine ⟨first ++ second, fun url hmem => ?_, ?_⟩
      · exact (List.mem_append.1 hmem).elim (hfirst url) (hsecond url)
      · rw [replay_append, hmove, hcourse]
        rfl

end Lookups

/-- Let a crawl be in any state, and let its workers look at the links of the pages being visited at
any moments, each link at a moment of its own, while batches are handed out, outcomes are taken in,
visits break down, the crawl is interrupted and others mark pages visited. Whether the workers leave
out the links that they find visited or pass on every link, the crawl is the same at every moment:
its frontier, its queued set, its visited set, its counter of new links and all else. As long as
nobody else marks pages, these crawls are the courses of the crawl itself, and each of its courses
is among them. -/
theorem lookups_benign (site : Site) (rule : Rule) (s : Session) :
    (∀ moves,
      ((ofSession site rule s).replay site rule .unvisited moves).session =
        ((ofSession site rule s).replay site rule .everything moves).session) ∧
      (∀ moves, (∀ url, .mark url ∉ moves) → ∃ course,
        ((ofSession site rule s).replay site rule .unvisited moves).session =
          s.replay site rule course) ∧
      ∀ course, ∃ moves, (∀ url, .mark url ∉ moves) ∧
        ((ofSession site rule s).replay site rule .unvisited moves).session =
          s.replay site rule course := by
  have hfaithful := faithful_ofSession site rule s
  refine ⟨fun moves => ?_, fun moves hmarks => ?_, fun course => ?_⟩
  · have habreast : (ofSession site rule s).Abreast (ofSession site rule s) := ⟨rfl, rfl⟩
    exact (habreast.replay hfaithful hfaithful Sieve.honest_unvisited Sieve.honest_everything
      moves).session.symm
  · exact hfaithful.exists_course Sieve.honest_unvisited hmarks
  · obtain ⟨moves, hmarks, hreplay⟩ := exists_replay site rule Sieve.honest_unvisited s course
    exact ⟨moves, hmarks, by rw [hreplay]; rfl⟩

end Crew

end Prospector
