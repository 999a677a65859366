import Prospector.Crawl.Scheduler

/-!
# What the frontier does with pages and links

Each operation of a scheduler as one equation. As long as no page of the frontier is known from
elsewhere, a batch is a part cut off its start, and taking in links is putting those that are new
at its end. Every later fact about crawls uses these equations and no loop of the scheduler.

## Main results

* `Scheduler.takeBatch_of_fresh` : a batch is the start of a frontier of distinct pages that are
  not too deep and not visited.
* `Scheduler.exists_takeBatch_eq` : whatever others marked visited, a batch is a part cut off the
  start, the pages left out that are visited.
* `Scheduler.enqueueLinks_eq` : links are put at the end of the frontier, those that are known or
  too deep left out, each at its first place.
-/

namespace Prospector.Scheduler

/-! ## Links -/

/-- Whether a page was visited or ever waited. -/
def knows (s : Scheduler) (url : String) : Bool :=
  s.visited.contains url || s.queued.contains url

/-- The links that a scheduler does not know, each at its first place. -/
def novel (s : Scheduler) (links : List String) : List String :=
  (links.filter fun url => !s.knows url).eraseDups

/-- The links of a page that are put on the frontier: none if they lie too deep. -/
def accepted (s : Scheduler) (parentDepth : Nat) (links : List String) : List String :=
  if s.limits.maxDepth < parentDepth + 1 then [] else s.novel links

/-- A scheduler with pages put at the end of its frontier. -/
def push (s : Scheduler) (depth : Nat) (urls : List String) : Scheduler :=
  { s with
    frontier := s.frontier ++ urls.map fun url => ⟨url, depth⟩
    queued := urls.reverse ++ s.queued }

theorem push_nil (s : Scheduler) (depth : Nat) : s.push depth [] = s := by
  simp [push]

theorem knows_push_single (s : Scheduler) (depth : Nat) (url u : String) :
    (s.push depth [url]).knows u = (s.knows u || u == url) := by
  simp only [knows, push, List.reverse_singleton, List.singleton_append, List.contains_cons]
  cases s.visited.contains u <;> cases s.queued.contains u <;> simp

theorem novel_cons_of_known (s : Scheduler) {url : String} (links : List String)
    (h : s.knows url = true) : s.novel (url :: links) = s.novel links := by
  simp [novel, h]

/-- A new link comes first, and from then on it is known. -/
theorem novel_cons_of_new (s : Scheduler) (depth : Nat) {url : String} (links : List String)
    (h : s.knows url = false) :
    s.novel (url :: links) = url :: (s.push depth [url]).novel links := by
  have hfilter : ((links.filter fun u => !s.knows u).filter fun u => !u == url) =
      links.filter fun u => !(s.push depth [url]).knows u := by
    rw [List.filter_filter]
    refine List.filter_congr fun u _ => ?_
    rw [knows_push_single, Bool.not_or, Bool.and_comm]
  rw [novel, List.filter_cons_of_pos (by simp [h]), List.eraseDups_cons, hfilter, novel]

theorem foldl_enqueue (s : Scheduler) (depth : Nat) (links : List String) :
    links.foldl (fun t url => t.enqueue depth url) s = s.push depth (s.novel links) := by
  induction links generalizing s with
  | nil => simp [novel, push_nil]
  | cons url links ih =>
      rw [List.foldl_cons, ih]
      cases hknown : s.knows url with
      | true =>
          have henqueue : s.enqueue depth url = s := if_pos hknown
          rw [henqueue, novel_cons_of_known s links hknown]
      | false =>
          have henqueue : s.enqueue depth url = s.push depth [url] := by
            have hcond : ¬(s.visited.contains url || s.queued.contains url) = true := by
              rw [← knows, hknown]
              exact Bool.false_ne_true
            exact if_neg hcond
          rw [henqueue, novel_cons_of_new s depth links hknown]
          simp [push, List.append_assoc]

/-- Taking in the links of a page puts the accepted ones at the end of the frontier and counts
them. -/
theorem enqueueLinks_eq (s : Scheduler) (parentDepth : Nat) (links : List String) :
    s.enqueueLinks parentDepth links =
      ((s.accepted parentDepth links).length,
        s.push (parentDepth + 1) (s.accepted parentDepth links)) := by
  unfold enqueueLinks accepted
  split
  · simp [push_nil]
  · rw [foldl_enqueue]
    simp [push]

theorem mem_novel {s : Scheduler} {links : List String} {url : String} :
    url ∈ s.novel links ↔ url ∈ links ∧ s.knows url = false := by
  simp [novel, List.mem_eraseDups]

/-- A link is put on the frontier if it is new and lies not too deep. -/
theorem mem_accepted {s : Scheduler} {parentDepth : Nat} {links : List String} {url : String}
    (h : url ∈ s.accepted parentDepth links) :
    parentDepth + 1 ≤ s.limits.maxDepth ∧ url ∈ links ∧ s.knows url = false := by
  unfold accepted at h
  split at h
  · exact absurd h List.not_mem_nil
  · next hdeep => exact ⟨Nat.not_lt.1 hdeep, mem_novel.1 h⟩

theorem nodup_novel (s : Scheduler) (links : List String) : (s.novel links).Nodup := by
  induction links generalizing s with
  | nil => simp [novel]
  | cons url links ih =>
      cases hknown : s.knows url with
      | true =>
          rw [novel_cons_of_known s links hknown]
          exact ih s
      | false =>
          rw [novel_cons_of_new s 0 links hknown, List.nodup_cons]
          refine ⟨fun hmem => ?_, ih _⟩
          have hnew := (mem_novel.1 hmem).2
          simp [knows_push_single] at hnew

theorem nodup_accepted (s : Scheduler) (parentDepth : Nat) (links : List String) :
    (s.accepted parentDepth links).Nodup := by
  unfold accepted
  split
  · exact List.nodup_nil
  · exact nodup_novel s links

/-- Links to pages that are known make no difference. -/
theorem novel_filter (s : Scheduler) (links : List String) (keep : String → Bool)
    (h : ∀ url, keep url = false → s.knows url = true) :
    s.novel (links.filter keep) = s.novel links := by
  rw [novel, List.filter_filter, novel]
  congr 1
  refine List.filter_congr fun url _ => ?_
  cases hkeep : keep url with
  | true => rw [Bool.and_true]
  | false => simp [h url hkeep]

/-! ## Batches -/

section Batches

variable (limits : Limits) (room : Nat) (visited : VisitedSet) (frontier : List Entry)

theorem length_batch_le : (takeBatch limits room visited frontier).1.length ≤ room := by
  fun_induction takeBatch limits room visited frontier with
  | case1 => exact Nat.zero_le _
  | case2 => exact Nat.zero_le _
  | case3 room visited e rest _ _ ih => exact ih
  | case4 room visited e rest hgoes _ batch seen waiting heq ih =>
      rw [heq] at ih
      have hroom : room ≠ 0 := fun hzero => hgoes (by simp [hzero])
      simp only [List.length_cons] at ih ⊢
      omega

/-- Each page of a batch is handed out while the quota is not used up, the pages before it in the
batch counted as visited. -/
theorem visited_lt_of_lt_length_batch (i : Nat)
    (h : i < (takeBatch limits room visited frontier).1.length) :
    visited.size + i < limits.maxPages := by
  fun_induction takeBatch limits room visited frontier generalizing i with
  | case1 => exact absurd h (Nat.not_lt_zero i)
  | case2 => exact absurd h (Nat.not_lt_zero i)
  | case3 room visited e rest _ _ ih => exact ih i h
  | case4 room visited e rest hgoes _ batch seen waiting heq ih =>
      rw [heq] at ih
      cases i with
      | zero =>
          have hquota : ¬limits.maxPages ≤ visited.size := fun hfull => hgoes (by simp [hfull])
          omega
      | succ i =>
          have hrest := ih i (Nat.lt_of_succ_lt_succ h)
          simp only [VisitedSet.size, List.length_cons] at hrest ⊢
          omega

/-- Nothing is handed out only if nothing waits any more or the quota is used up. -/
theorem takeBatch_eq_nil (hroom : room ≠ 0)
    (h : (takeBatch limits room visited frontier).1 = []) :
    (takeBatch limits room visited frontier).2.1 = visited ∧
      ((takeBatch limits room visited frontier).2.2 = [] ∨ limits.maxPages ≤ visited.size) := by
  fun_induction takeBatch limits room visited frontier with
  | case1 => exact ⟨rfl, .inl rfl⟩
  | case2 room visited e rest hstop =>
      have hfull : room = 0 ∨ limits.maxPages ≤ visited.size := by simpa using hstop
      exact ⟨rfl, .inr (hfull.resolve_left hroom)⟩
  | case3 room visited e rest _ _ ih => exact ih hroom h
  | case4 room visited e rest _ _ batch seen waiting heq ih =>
      exact absurd h (List.cons_ne_nil e batch)

/-- A frontier of distinct pages, none too deep, loses a first part, and of this part the pages that
were not visited are handed out. -/
theorem exists_takeBatch_eq (hdepth : ∀ e ∈ frontier, e.depth ≤ limits.maxDepth)
    (hdistinct : (frontier.map Entry.url).Nodup) :
    ∃ gone waiting, frontier = gone ++ waiting ∧
      takeBatch limits room visited frontier =
        (gone.filter fun e => !visited.contains e.url,
          ⟨((gone.filter fun e => !visited.contains e.url).map Entry.url).reverse ++ visited.urls⟩,
          waiting) := by
  fun_induction takeBatch limits room visited frontier with
  | case1 => exact ⟨[], [], rfl, rfl⟩
  | case2 room visited e rest _ => exact ⟨[], e :: rest, rfl, rfl⟩
  | case3 room visited e rest _ hskip ih =>
      obtain ⟨he, hrest⟩ := List.forall_mem_cons.1 hdepth
      rw [List.map_cons, List.nodup_cons] at hdistinct
      obtain ⟨gone, waiting, rfl, htake⟩ := ih hrest hdistinct.2
      have hvisited : visited.contains e.url = true := by
        rcases Bool.or_eq_true_iff.1 hskip with hdeep | hvisited
        · exact absurd he (Nat.not_le.2 (of_decide_eq_true hdeep))
        · exact hvisited
      refine ⟨e :: gone, waiting, rfl, ?_⟩
      rw [htake, List.filter_cons_of_neg (by simp [hvisited])]
  | case4 room visited e rest _ hskip batch seen waiting heq ih =>
      obtain ⟨-, hrest⟩ := List.forall_mem_cons.1 hdepth
      rw [List.map_cons, List.nodup_cons] at hdistinct
      obtain ⟨gone, waiting', rfl, htake⟩ := ih hrest hdistinct.2
      have hnew : visited.contains e.url = false := by
        rw [Bool.eq_false_iff]
        exact fun hvisited => hskip (by simp [hvisited])
      have hfilter : (gone.filter fun f => !VisitedSet.contains ⟨e.url :: visited.urls⟩ f.url) =
          gone.filter fun f => !visited.contains f.url := by
        refine List.filter_congr fun f hf => ?_
        have hne : f.url ≠ e.url := fun hurl =>
          hdistinct.1 (hurl ▸ List.mem_map_of_mem (List.mem_append_left _ hf))
        simp [VisitedSet.contains, hne]
      rw [hfilter, heq] at htake
      obtain ⟨rfl, rfl, rfl⟩ : batch = _ ∧ seen = _ ∧ waiting = _ := by
        simpa only [Prod.mk.injEq] using htake
      refine ⟨e :: gone, _, rfl, ?_⟩
      rw [List.filter_cons_of_pos (by simp [hnew])]
      simp

end Batches

/-- The number of pages of the next batch, if the frontier has as many. -/
def room (s : Scheduler) : Nat :=
  min s.limits.batchSize (s.limits.maxPages - s.visited.size)

/-- A frontier of distinct pages, none too deep and none visited, loses only what is handed out. -/
theorem takeBatch_of_fresh (limits : Limits) (room : Nat) (visited : VisitedSet)
    (frontier : List Entry)
    (hdepth : ∀ e ∈ frontier, e.depth ≤ limits.maxDepth)
    (hnew : ∀ e ∈ frontier, visited.contains e.url = false)
    (hdistinct : (frontier.map Entry.url).Nodup) :
    let n := min room (limits.maxPages - visited.size)
    takeBatch limits room visited frontier =
      (frontier.take n, ⟨((frontier.take n).map Entry.url).reverse ++ visited.urls⟩,
        frontier.drop n) := by
  intro n
  induction frontier generalizing room visited with
  | nil => simp [takeBatch]
  | cons e rest ih =>
      have he : ¬(limits.maxDepth < e.depth) := Nat.not_lt.2 (hdepth e List.mem_cons_self)
      have heNew : visited.contains e.url = false := hnew e List.mem_cons_self
      rw [List.map_cons, List.nodup_cons] at hdistinct
      by_cases hfull : room = 0 ∨ limits.maxPages ≤ visited.size
      · have hn : n = 0 := by omega
        have hstop : (room = 0 || decide (limits.maxPages ≤ visited.size)) = true := by
          simpa using hfull
        rw [takeBatch, if_pos hstop, hn]
        simp
      · have hstop : ¬(room = 0 || decide (limits.maxPages ≤ visited.size)) = true := by
          simpa using hfull
        have hskip : ¬(decide (limits.maxDepth < e.depth) || visited.contains e.url) = true := by
          simp [he, heNew]
        have hrest := ih (room - 1) ⟨e.url :: visited.urls⟩
          (fun f hf => hdepth f (List.mem_cons_of_mem e hf))
          (by
            intro f hf
            have hne : f.url ≠ e.url := fun heq =>
              hdistinct.1 (heq ▸ List.mem_map_of_mem hf)
            have hfNew := hnew f (List.mem_cons_of_mem e hf)
            simpa [VisitedSet.contains, hne] using hfNew)
          hdistinct.2
        have hn : n = min (room - 1) (limits.maxPages - (visited.size + 1)) + 1 := by omega
        rw [takeBatch, if_neg hstop, if_neg hskip, hrest, hn]
        simp [VisitedSet.size]

end Prospector.Scheduler
