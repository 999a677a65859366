import Mathlib.Algebra.GroupWithZero.Nat
import Prospector.Proofs.Crawl.Frontier

/-!
# Accounts of a frontier

A scheduler serves whoever holds it: batches may be taken and links offered in any order and at any
depth, and others who hold its visited set may mark pages visited in between, those that wait among
them. An account says what came of all this: the pages that were put on the frontier and those that
were taken off it, the batches, the numbers of new links, and the pages that others marked.

Whatever is asked of a scheduler, what was put on its frontier is what was taken off it, followed by
what still waits. Each invariant of an account follows from this equation and from the visited set
being the pages handed out together with those marked by others.

## Main definitions

* `Scheduler.Call`, `Scheduler.perform` : what can be asked of a scheduler.
* `Account` : a scheduler together with all that came of the calls so far.

## Main results

* `Account.Sound.perform` : what every call keeps.
* `Account.fate_of_gone` : a page taken off the frontier is handed out, unless others marked it.
* `Account.accounts_agree` : the accounts of a scheduler after any sequence of calls.
-/

namespace Prospector

namespace Scheduler

/-! ## Calls -/

/-- What can be asked of a scheduler. -/
inductive Call where
  | nextBatch
  | enqueueLinks (parentDepth : Nat) (links : List String)
  /-- Somebody else marks a page visited. -/
  | visit (url : String)
  deriving DecidableEq, Repr

/-- A scheduler after a call. -/
def perform (s : Scheduler) : Call → Scheduler
  | .nextBatch => s.nextBatch.2
  | .enqueueLinks parentDepth links => (s.enqueueLinks parentDepth links).2
  | .visit url => (s.visit url).2

/-- The pages that a call puts on the frontier. -/
def pushedBy (s : Scheduler) (c : Call) : List Entry :=
  (s.perform c).frontier.drop s.frontier.length

/-- The pages that a call takes off the frontier, whether it hands them out or not. -/
def poppedBy (s : Scheduler) (c : Call) : List Entry :=
  s.frontier.take (s.frontier.length - (s.perform c).frontier.length)

/-- The batch that a call returns. -/
def batch? (s : Scheduler) : Call → Option (List Entry)
  | .nextBatch => some s.nextBatch.1
  | .enqueueLinks _ _ | .visit _ => none

/-- The number of new pages that a call returns. -/
def added? (s : Scheduler) : Call → Option Nat
  | .enqueueLinks parentDepth links => some (s.enqueueLinks parentDepth links).1
  | .nextBatch | .visit _ => none

/-- The page that somebody else marks visited, if it was not visited before. -/
def marked? (s : Scheduler) : Call → Option String
  | .visit url => if (s.visit url).1 then some url else none
  | .nextBatch | .enqueueLinks _ _ => none

theorem perform_enqueueLinks (s : Scheduler) (parentDepth : Nat) (links : List String) :
    s.perform (.enqueueLinks parentDepth links) =
      s.push (parentDepth + 1) (s.accepted parentDepth links) := by
  rw [perform, enqueueLinks_eq]

/-- New links are put on the frontier at the depth behind that of their page. -/
theorem pushedBy_enqueueLinks (s : Scheduler) (parentDepth : Nat) (links : List String) :
    s.pushedBy (.enqueueLinks parentDepth links) =
      (s.accepted parentDepth links).map fun url => ⟨url, parentDepth + 1⟩ := by
  rw [pushedBy, perform_enqueueLinks]
  exact List.drop_left

theorem poppedBy_enqueueLinks (s : Scheduler) (parentDepth : Nat) (links : List String) :
    s.poppedBy (.enqueueLinks parentDepth links) = [] := by
  have hlength : s.frontier.length ≤
      (s.perform (.enqueueLinks parentDepth links)).frontier.length := by
    rw [perform_enqueueLinks, push, List.length_append]
    exact Nat.le_add_right _ _
  rw [poppedBy, Nat.sub_eq_zero_of_le hlength, List.take_zero]

theorem pushedBy_visit (s : Scheduler) (url : String) : s.pushedBy (.visit url) = [] :=
  List.drop_length

theorem poppedBy_visit (s : Scheduler) (url : String) : s.poppedBy (.visit url) = [] := by
  show s.frontier.take (s.frontier.length - s.frontier.length) = []
  rw [Nat.sub_self, List.take_zero]

theorem pushedBy_nextBatch (s : Scheduler) : s.pushedBy .nextBatch = [] :=
  List.drop_eq_nil_of_le (length_takeBatch_le ..)

/-- A frontier of distinct pages, none too deep, loses a first part to a call for a batch. The batch
is made of the pages of this part that were not visited, and these are visited then. -/
theorem nextBatch_spec (s : Scheduler) (hdepth : ∀ e ∈ s.frontier, e.depth ≤ s.limits.maxDepth)
    (hdistinct : (s.frontier.map Entry.url).Nodup) :
    s.frontier = s.poppedBy .nextBatch ++ s.nextBatch.2.frontier ∧
      s.nextBatch.1 = ((s.poppedBy .nextBatch).filter fun e => !s.visited.contains e.url) ∧
      s.nextBatch.2.visited.urls = (s.nextBatch.1.map Entry.url).reverse ++ s.visited.urls := by
  obtain ⟨gone, waiting, hsplit, htake⟩ :=
    exists_takeBatch_eq s.limits s.limits.batchSize s.visited s.frontier hdepth hdistinct
  have hpopped : s.poppedBy .nextBatch = gone := by
    rw [poppedBy, perform, nextBatch, htake, hsplit, List.length_append, Nat.add_sub_cancel]
    exact List.take_left
  rw [hpopped, nextBatch, htake]
  exact ⟨hsplit, rfl, rfl⟩

/-- Marking a page changes something only if it was not visited. -/
theorem visit_cases (s : Scheduler) (url : String) :
    (s.visited.contains url = true ∧ s.visit url = (false, s)) ∨
      (s.visited.contains url = false ∧
        s.visit url = (true, { s with visited := ⟨url :: s.visited.urls⟩ })) := by
  unfold visit VisitedSet.visit
  cases s.visited.contains url with
  | true => exact .inl ⟨rfl, rfl⟩
  | false => exact .inr ⟨rfl, rfl⟩

end Scheduler

/-! ## Accounts -/

/-- A scheduler together with all that came of the calls so far. -/
structure Account where
  scheduler : Scheduler
  /-- Every page that was put on the frontier, the first one first. -/
  pushed : List Entry
  /-- Every page that was taken off the frontier, the first one first. -/
  popped : List Entry := []
  /-- The batches that were returned, the first one first. -/
  batches : List (List Entry) := []
  /-- The numbers of new pages that were returned. -/
  added : List Nat := []
  /-- The pages that others marked visited. -/
  marked : List String := []
  deriving DecidableEq, Repr

namespace Account

open Scheduler (Call)

/-- The account of a new scheduler. -/
def new (start : String) (limits : Limits) : Account :=
  { scheduler := .new start limits, pushed := [⟨start, 0⟩] }

/-- Every page that was handed out, the first one first. -/
def handedOut (a : Account) : List Entry :=
  a.batches.flatten

/-- The account after a call. -/
def perform (a : Account) (c : Call) : Account :=
  { scheduler := a.scheduler.perform c
    pushed := a.pushed ++ a.scheduler.pushedBy c
    popped := a.popped ++ a.scheduler.poppedBy c
    batches := a.batches ++ (a.scheduler.batch? c).toList
    added := a.added ++ (a.scheduler.added? c).toList
    marked := a.marked ++ (a.scheduler.marked? c).toList }

/-- The account after several calls, one after another. -/
def replay (a : Account) (calls : List Call) : Account :=
  calls.foldl perform a

theorem replay_append (a : Account) (first second : List Call) :
    a.replay (first ++ second) = (a.replay first).replay second :=
  List.foldl_append

theorem perform_nextBatch (a : Account) :
    a.perform .nextBatch =
      { a with
        scheduler := a.scheduler.nextBatch.2
        popped := a.popped ++ a.scheduler.poppedBy .nextBatch
        batches := a.batches ++ [a.scheduler.nextBatch.1] } := by
  simp [perform, Scheduler.pushedBy_nextBatch, Scheduler.perform, Scheduler.batch?,
    Scheduler.added?, Scheduler.marked?]

theorem perform_enqueueLinks (a : Account) (parentDepth : Nat) (links : List String) :
    a.perform (.enqueueLinks parentDepth links) =
      { a with
        scheduler := a.scheduler.push (parentDepth + 1) (a.scheduler.accepted parentDepth links)
        pushed := a.pushed ++
          (a.scheduler.accepted parentDepth links).map fun url => ⟨url, parentDepth + 1⟩
        added := a.added ++ [(a.scheduler.accepted parentDepth links).length] } := by
  simp [perform, Scheduler.pushedBy_enqueueLinks, Scheduler.poppedBy_enqueueLinks,
    Scheduler.perform_enqueueLinks, Scheduler.batch?, Scheduler.added?, Scheduler.marked?,
    Scheduler.enqueueLinks_eq]

/-- A mark is noted only if the page was not visited; otherwise it changes nothing. -/
theorem perform_visit_cases (a : Account) (url : String) :
    (a.scheduler.visited.contains url = true ∧ a.perform (.visit url) = a) ∨
      (a.scheduler.visited.contains url = false ∧
        a.perform (.visit url) =
          { a with
            scheduler :=
              { a.scheduler with visited := ⟨url :: a.scheduler.visited.urls⟩ }
            marked := a.marked ++ [url] }) := by
  refine (a.scheduler.visit_cases url).imp (fun ⟨hold, hvisit⟩ => ⟨hold, ?_⟩)
    fun ⟨hnew, hvisit⟩ => ⟨hnew, ?_⟩
  all_goals
    simp [perform, Scheduler.pushedBy_visit, Scheduler.poppedBy_visit, Scheduler.perform,
      Scheduler.batch?, Scheduler.added?, Scheduler.marked?, hvisit]

/-- What the parts of an account have to do with one another. -/
structure Sound (limits : Limits) (a : Account) : Prop where
  limits_eq : a.scheduler.limits = limits
  /-- What was put on the frontier was taken off it or waits. -/
  split : a.pushed = a.popped ++ a.scheduler.frontier
  queued : a.scheduler.queued.reverse = a.pushed.map Entry.url
  distinct : (a.pushed.map Entry.url).Nodup
  shallow : ∀ e ∈ a.pushed, e.depth ≤ limits.maxDepth
  counted : a.pushed.length = 1 + a.added.sum
  /-- What was visited was handed out or marked by others. -/
  visited : ∀ url, a.scheduler.visited.contains url = true ↔
    url ∈ a.handedOut.map Entry.url ∨ url ∈ a.marked
  /-- What was handed out was taken off the frontier. -/
  handed : a.handedOut.Sublist a.popped
  /-- Nothing that others marked was handed out. -/
  exclusive : ∀ e ∈ a.handedOut, e.url ∉ a.marked

theorem Sound.new (start : String) (limits : Limits) : (Account.new start limits).Sound limits where
  limits_eq := rfl
  split := rfl
  queued := rfl
  distinct := List.pairwise_singleton _ _
  shallow := by
    intro e he
    rw [List.mem_singleton.1 he]
    exact Nat.zero_le _
  counted := rfl
  visited := by
    intro url
    simp [Account.new, Scheduler.new, handedOut, VisitedSet.contains]
  handed := List.Sublist.refl _
  exclusive := fun e he => absurd he List.not_mem_nil

namespace Sound

variable {limits : Limits} {a : Account}

theorem mem_pushed_of_waiting (h : a.Sound limits) {e : Entry} (he : e ∈ a.scheduler.frontier) :
    e ∈ a.pushed := by
  rw [h.split]
  exact List.mem_append_right _ he

theorem nodup_handedOut (h : a.Sound limits) : a.handedOut.Nodup := by
  have hpushed : a.pushed.Nodup :=
    List.Pairwise.of_map Entry.url (fun _ _ hne heq => hne (congrArg Entry.url heq)) h.distinct
  rw [h.split] at hpushed
  exact h.handed.nodup (List.nodup_append.1 hpushed).1

/-- A page that waits was not handed out. -/
theorem not_mem_handedOut_of_waiting (h : a.Sound limits) {e : Entry}
    (he : e ∈ a.scheduler.frontier) : e.url ∉ a.handedOut.map Entry.url := by
  have hdistinct := h.distinct
  rw [h.split, List.map_append] at hdistinct
  intro hhanded
  exact (List.nodup_append.1 hdistinct).2.2 _ ((h.handed.map Entry.url).subset hhanded) _
    (List.mem_map_of_mem he) rfl

/-- A page that waits is marked by others as soon as it is visited. -/
theorem marked_iff_of_waiting (h : a.Sound limits) {e : Entry} (he : e ∈ a.scheduler.frontier) :
    e.url ∈ a.marked ↔ a.scheduler.visited.contains e.url = true := by
  rw [h.visited]
  exact ⟨.inr, fun hor => hor.resolve_left (h.not_mem_handedOut_of_waiting he)⟩

theorem nextBatch_spec (h : a.Sound limits) :
    a.scheduler.frontier = a.scheduler.poppedBy .nextBatch ++ a.scheduler.nextBatch.2.frontier ∧
      a.scheduler.nextBatch.1 =
        ((a.scheduler.poppedBy .nextBatch).filter
          fun e => !a.scheduler.visited.contains e.url) ∧
      a.scheduler.nextBatch.2.visited.urls =
        (a.scheduler.nextBatch.1.map Entry.url).reverse ++ a.scheduler.visited.urls := by
  have hdistinct := h.distinct
  rw [h.split, List.map_append] at hdistinct
  refine a.scheduler.nextBatch_spec (fun e he => ?_) (List.nodup_append.1 hdistinct).2.1
  rw [h.limits_eq]
  exact h.shallow e (h.mem_pushed_of_waiting he)

/-- A page taken off the frontier by a call for a batch is in the batch, unless others marked it. -/
theorem mem_nextBatch_iff (h : a.Sound limits) {e : Entry}
    (he : e ∈ a.scheduler.poppedBy .nextBatch) :
    e ∈ a.scheduler.nextBatch.1 ↔ e.url ∉ a.marked := by
  obtain ⟨hsplit, hbatch, -⟩ := h.nextBatch_spec
  have hwaiting : e ∈ a.scheduler.frontier := by
    rw [hsplit]
    exact List.mem_append_left _ he
  rw [hbatch, List.mem_filter, h.marked_iff_of_waiting hwaiting]
  simp [he]

/-! ## Every call keeps accounts sound -/

theorem handedOut_nextBatch (a : Account) :
    (a.perform .nextBatch).handedOut = a.handedOut ++ a.scheduler.nextBatch.1 := by
  simp [perform_nextBatch, handedOut]

theorem nextBatch (h : a.Sound limits) : (a.perform .nextBatch).Sound limits := by
  obtain ⟨hsplit, hbatch, hvisited⟩ := h.nextBatch_spec
  have hhanded := handedOut_nextBatch a
  rw [perform_nextBatch] at hhanded ⊢
  exact
    { limits_eq := h.limits_eq
      split := by
        rw [h.split, hsplit, List.append_assoc]
      queued := h.queued
      distinct := h.distinct
      shallow := h.shallow
      counted := h.counted
      visited := by
        intro url
        have hold := h.visited url
        rw [VisitedSet.contains, List.contains_iff_mem] at hold ⊢
        rw [hvisited, hhanded, List.map_append, List.mem_append, List.mem_append, List.mem_reverse,
          hold]
        exact or_left_comm.trans or_assoc.symm
      handed := by
        rw [hhanded]
        refine h.handed.append ?_
        rw [hbatch]
        exact List.filter_sublist
      exclusive := by
        intro e he
        rw [hhanded] at he
        rcases List.mem_append.1 he with hold | hnew
        · exact h.exclusive e hold
        · have hpopped : e ∈ a.scheduler.poppedBy .nextBatch := by
            rw [hbatch] at hnew
            exact (List.mem_filter.1 hnew).1
          exact (h.mem_nextBatch_iff hpopped).1 hnew }

/-- New links are pages that were never put on the frontier before. -/
theorem not_mem_pushed_of_accepted (h : a.Sound limits) {parentDepth : Nat} {links : List String}
    {url : String} (hurl : url ∈ a.scheduler.accepted parentDepth links) :
    url ∉ a.pushed.map Entry.url := by
  have hunknown := (Scheduler.mem_accepted hurl).2.2
  rw [Scheduler.knows, Bool.or_eq_false_iff] at hunknown
  rw [← h.queued, List.mem_reverse, ← List.contains_iff_mem, hunknown.2]
  exact Bool.false_ne_true

theorem enqueueLinks (h : a.Sound limits) (parentDepth : Nat) (links : List String) :
    (a.perform (.enqueueLinks parentDepth links)).Sound limits := by
  have hurls : (a.pushed ++ (a.scheduler.accepted parentDepth links).map fun url =>
      (⟨url, parentDepth + 1⟩ : Entry)).map Entry.url =
        a.pushed.map Entry.url ++ a.scheduler.accepted parentDepth links := by
    rw [List.map_append, List.map_map]
    exact congrArg _ (List.map_id _)
  rw [perform_enqueueLinks]
  exact
    { limits_eq := h.limits_eq
      split := by
        rw [h.split, List.append_assoc]
        rfl
      queued := by
        rw [hurls, ← h.queued]
        simp [Scheduler.push]
      distinct := by
        rw [hurls, List.nodup_append]
        refine ⟨h.distinct, Scheduler.nodup_accepted _ _ _, fun url hold url' hnew heq => ?_⟩
        exact h.not_mem_pushed_of_accepted hnew (heq ▸ hold)
      shallow := by
        intro e he
        rcases List.mem_append.1 he with hold | hnew
        · exact h.shallow e hold
        · obtain ⟨url, hurl, rfl⟩ := List.mem_map.1 hnew
          rw [← h.limits_eq]
          exact (Scheduler.mem_accepted hurl).1
      counted := by
        rw [List.length_append, List.length_map, h.counted, List.sum_append, List.sum_singleton,
          Nat.add_assoc]
      visited := h.visited
      handed := h.handed
      exclusive := h.exclusive }

/-- What others mark was not handed out before, or the mark changes nothing. -/
theorem visit (h : a.Sound limits) (url : String) : (a.perform (.visit url)).Sound limits := by
  rcases a.perform_visit_cases url with ⟨-, hsame⟩ | ⟨hnew, hmark⟩
  · rw [hsame]
    exact h
  · rw [hmark]
    exact
      { limits_eq := h.limits_eq
        split := h.split
        queued := h.queued
        distinct := h.distinct
        shallow := h.shallow
        counted := h.counted
        visited := by
          intro u
          have hold := h.visited u
          rw [VisitedSet.contains, List.contains_iff_mem] at hold ⊢
          rw [List.mem_cons, List.mem_append, List.mem_singleton, hold]
          exact or_comm.trans or_assoc
        handed := h.handed
        exclusive := by
          intro e he
          rw [List.mem_append, List.mem_singleton, not_or]
          refine ⟨h.exclusive e he, fun hurl => ?_⟩
          have hvisited := (h.visited e.url).2 (.inl (List.mem_map_of_mem he))
          rw [hurl, hnew] at hvisited
          exact absurd hvisited Bool.false_ne_true }

/-- Every call keeps an account sound. -/
theorem perform (h : a.Sound limits) (c : Call) : (a.perform c).Sound limits := by
  cases c with
  | nextBatch => exact h.nextBatch
  | enqueueLinks parentDepth links => exact h.enqueueLinks parentDepth links
  | visit url => exact h.visit url

theorem replay (h : a.Sound limits) (calls : List Call) : (a.replay calls).Sound limits := by
  induction calls generalizing a with
  | nil => exact h
  | cons c calls ih => exact ih (h.perform c)

end Sound

/-! ## Accounts grow -/

/-- Later calls add to what was handed out and to what others marked. -/
theorem grows_replay (a : Account) (calls : List Call) :
    a.handedOut <+: (a.replay calls).handedOut ∧ a.marked <+: (a.replay calls).marked := by
  induction calls generalizing a with
  | nil => exact ⟨List.prefix_refl _, List.prefix_refl _⟩
  | cons c calls ih =>
      obtain ⟨hhanded, hmarked⟩ := ih (a.perform c)
      have hflat : (a.perform c).handedOut = a.handedOut ++ (a.scheduler.batch? c).toList.flatten :=
        List.flatten_append
      refine ⟨List.IsPrefix.trans ?_ hhanded, List.IsPrefix.trans (List.prefix_append _ _) hmarked⟩
      rw [hflat]
      exact List.prefix_append _ _

/-- A page taken off the frontier by a call for a batch is in the batch and handed out that one
time, or others had marked it before and it is never handed out. -/
theorem fate_of_gone {limits : Limits} {a : Account} (h : a.Sound limits) (later : List Call)
    {e : Entry} (he : e ∈ a.scheduler.poppedBy .nextBatch) :
    (e ∈ a.scheduler.nextBatch.1 ∧ e.url ∉ a.marked ∧
        ((a.perform .nextBatch).replay later).handedOut.count e = 1) ∨
      (e ∉ a.scheduler.nextBatch.1 ∧ e.url ∈ a.marked ∧
        ((a.perform .nextBatch).replay later).handedOut.count e = 0) := by
  have hlater := h.nextBatch.replay later
  obtain ⟨hhanded, hmarked⟩ := grows_replay (a.perform .nextBatch) later
  rw [Sound.handedOut_nextBatch] at hhanded
  by_cases hmark : e.url ∈ a.marked
  · refine .inr ⟨fun hbatch => (h.mem_nextBatch_iff he).1 hbatch hmark, hmark, ?_⟩
    refine List.count_eq_zero.2 fun hmem => hlater.exclusive e hmem ?_
    exact hmarked.subset (List.mem_append_left _ hmark)
  · have hbatch := (h.mem_nextBatch_iff he).2 hmark
    have hmem := hhanded.subset (List.mem_append_right _ hbatch)
    refine .inl ⟨hbatch, hmark, ?_⟩
    rw [hlater.nodup_handedOut.count, if_pos hmem]

/-- Whatever is asked of a scheduler, in whatever order, and whatever others mark visited meanwhile:
the pages put on the frontier are the start and the new links counted by the calls, all distinct and
none too deep; what still waits is the end of this list, and what was handed out is in the order of
it. At each call for a batch: the batch has at most as many pages as are visited at the same time;
each of them is handed out while the quota is not used up; and every page that the call takes off
the frontier is handed out by it and no other time, or others had marked it before. -/
theorem accounts_agree (start : String) (limits : Limits) (calls : List Call) :
    let a := (new start limits).replay calls
    a.pushed.length = 1 + a.added.sum ∧
      (a.pushed.map Entry.url).Nodup ∧
      (∀ e ∈ a.pushed, e.depth ≤ limits.maxDepth) ∧
      a.scheduler.frontier <:+ a.pushed ∧
      a.batches.flatten.Sublist a.pushed ∧
      ∀ earlier later, calls = earlier ++ .nextBatch :: later →
        let b := (new start limits).replay earlier
        let batch := b.scheduler.nextBatch.1
        batch.length ≤ max limits.maxWorkers 1 ∧
          (∀ i < batch.length, b.scheduler.visited.size + i < limits.maxPages) ∧
          ∀ e ∈ b.scheduler.poppedBy .nextBatch,
            (e ∈ batch ∧ e.url ∉ b.marked ∧ a.batches.flatten.count e = 1) ∨
              (e ∉ batch ∧ e.url ∈ b.marked ∧ a.batches.flatten.count e = 0) := by
  intro a
  have hsound : a.Sound limits := (Sound.new start limits).replay calls
  refine ⟨hsound.counted, hsound.distinct, hsound.shallow, ?_, ?_, ?_⟩
  · rw [hsound.split]
    exact List.suffix_append _ _
  · rw [hsound.split]
    exact hsound.handed.trans (List.sublist_append_left _ _)
  · intro earlier later hcalls b batch
    have hearlier : b.Sound limits := (Sound.new start limits).replay earlier
    have ha : a = (b.perform .nextBatch).replay later := by
      show (new start limits).replay calls = _
      rw [hcalls, replay_append]
      rfl
    refine ⟨?_, fun i hi => ?_, fun e he => ?_⟩
    · have hroom : batch.length ≤ b.scheduler.limits.batchSize := Scheduler.length_batch_le ..
      rw [hearlier.limits_eq] at hroom
      exact hroom
    · rw [← hearlier.limits_eq]
      exact Scheduler.visited_lt_of_lt_length_batch _ _ _ _ i hi
    · rw [ha]
      exact fate_of_gone hearlier later he

/-- A link offered twice is put on the frontier once, and a page that others mark is not handed
out. -/
example :
    let a := (new "s" ⟨10, 3, 4⟩).replay
      [.nextBatch, .enqueueLinks 0 ["a", "b", "a"], .visit "a", .enqueueLinks 0 ["a"], .nextBatch]
    a.batches = [[⟨"s", 0⟩], [⟨"b", 1⟩]] ∧ a.pushed = [⟨"s", 0⟩, ⟨"a", 1⟩, ⟨"b", 1⟩] ∧
      a.added = [2, 0] := by
  decide

end Account

end Prospector
