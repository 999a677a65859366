import Mathlib.Data.List.Lex
import Prospector.Rule.Problem

/-!
# Clauses of a rule and the paths to them

A rule is a tree of clauses: rules in it, the conditions of its predicates with the conditions of
their groups, and extractions. A clause is known by the path to it, since equal clauses may stand in
several places. Paths are ordered as the clauses at their ends come up when the tree is walked depth
first and from left to right.

Whatever lists the clauses of a tree that have something to show, each before those inside it and
these one after another, lists just the clauses that some path leads to, and in the order of their
paths.

## Main definitions

* `Clause`, `Clause.at?` : a clause, and the one that a path leads to from there.
* `ClausePath.Precedes` : the order of paths.
* `Clause.Lists` : whether something lists the clauses of a tree.

## Main results

* `Clause.Lists.mem_iff` : what is listed is what stands in the tree.
* `Clause.Lists.pairwise` : what is listed is in the order of the tree, nothing twice.
-/

namespace Prospector

/-- A clause of a rule: a rule in it, a condition or an extraction. -/
inductive Clause where
  | rule (rule : Rule)
  | condition (condition : Condition)
  | extraction (extraction : Extraction)

/-! ## Paths -/

/-- The steps from a clause to one inside it. -/
abbrev ClausePath := List ClauseStep

/-- The clause one step further in. -/
def Clause.inner? : Clause → ClauseStep → Option Clause
  | .rule (.oneOf rules), .alternative i => rules[i]?.map .rule
  | .rule (.predicate p), .condition => some (.condition p.condition)
  | .rule (.predicate p), .extraction => p.extraction.map .extraction
  | .condition (.all conditions), .all i => conditions[i]?.map .condition
  | .condition (.any conditions), .any i => conditions[i]?.map .condition
  | _, _ => none

/-- The clause that a path leads to. -/
def Clause.at? : Clause → ClausePath → Option Clause
  | c, [] => some c
  | c, step :: path => (c.inner? step).bind fun inner => inner.at? path

@[simp] theorem Clause.at?_nil (c : Clause) : c.at? [] = some c := rfl

theorem Clause.at?_cons (c : Clause) (step : ClauseStep) (path : ClausePath) :
    c.at? (step :: path) = (c.inner? step).bind fun inner => inner.at? path := rfl

theorem Clause.at?_cons_eq_some_iff {c found : Clause} {step : ClauseStep} {path : ClausePath} :
    c.at? (step :: path) = some found ↔
      ∃ inner, c.inner? step = some inner ∧ inner.at? path = some found := by
  rw [at?_cons, Option.bind_eq_some_iff]

/-- Whether a step leads to a place left of that of another step from the same clause. The condition
of a predicate stands left of its extraction. -/
inductive ClauseStep.Before : ClauseStep → ClauseStep → Prop
  | alternative {i j : Nat} : i < j → Before (.alternative i) (.alternative j)
  | condition : Before .condition .extraction
  | all {i j : Nat} : i < j → Before (.all i) (.all j)
  | any {i j : Nat} : i < j → Before (.any i) (.any j)

theorem ClauseStep.Before.asymm {s t : ClauseStep} (h : s.Before t) : ¬t.Before s := by
  intro h'
  cases h with
  | alternative hlt | all hlt | any hlt =>
      cases h'
      next hgt => exact Nat.lt_asymm hlt hgt
  | condition => cases h'

instance : Std.Asymm ClauseStep.Before where
  asymm _ _ := ClauseStep.Before.asymm

/-- The order in which the ends of paths come up when a tree is walked depth first and from left to
right. -/
def ClausePath.Precedes (p q : ClausePath) : Prop :=
  List.Lex ClauseStep.Before p q

theorem ClausePath.Precedes.asymm {p q : ClausePath} (h : ClausePath.Precedes p q) :
    ¬ClausePath.Precedes q p :=
  (List.Lex.asymm ClauseStep.Before).asymm p q h

theorem ClausePath.Precedes.ne {p q : ClausePath} (h : ClausePath.Precedes p q) : p ≠ q := by
  rintro rfl
  exact h.asymm h

/-! ## Clauses inside a clause -/

theorem Predicate.sizeOf_condition_lt (p : Predicate) : sizeOf p.condition < sizeOf p := by
  obtain ⟨condition, kind, extraction⟩ := p
  simp only [mk.sizeOf_spec]
  omega

theorem Predicate.sizeOf_lt_of_extraction {p : Predicate} {x : Extraction}
    (h : p.extraction = some x) : sizeOf x < sizeOf p := by
  obtain ⟨condition, kind, extraction⟩ := p
  obtain rfl : extraction = some x := h
  simp only [mk.sizeOf_spec, Option.some.sizeOf_spec]
  omega

namespace Clause

/-- The clauses one step further in, from left to right. -/
def children : Clause → List (ClauseStep × Clause)
  | .rule (.oneOf rules) => rules.zipIdx.map fun m => (.alternative m.2, .rule m.1)
  | .rule (.predicate p) =>
    (.condition, .condition p.condition) ::
      p.extraction.toList.map fun x => (.extraction, .extraction x)
  | .rule (.malformed _) => []
  | .condition (.all conditions) => conditions.zipIdx.map fun m => (.all m.2, .condition m.1)
  | .condition (.any conditions) => conditions.zipIdx.map fun m => (.any m.2, .condition m.1)
  | .condition (.tag _) => []
  | .condition (.malformed _) => []
  | .extraction _ => []

theorem mem_map_zipIdx_iff {α : Type} {step : Nat → ClauseStep} (hstep : step.Injective)
    {wrap : α → Clause} {items : List α} {i : Nat} {inner : Clause} :
    (step i, inner) ∈ items.zipIdx.map (fun m => (step m.2, wrap m.1)) ↔
      items[i]?.map wrap = some inner := by
  rw [List.mem_map, Option.map_eq_some_iff]
  constructor
  · rintro ⟨m, hm, heq⟩
    obtain ⟨hi, rfl⟩ := Prod.mk.inj heq
    rw [← hstep hi]
    exact ⟨m.1, List.mem_zipIdx_iff_getElem?.1 hm, rfl⟩
  · rintro ⟨item, hitem, rfl⟩
    exact ⟨(item, i), List.mem_zipIdx_iff_getElem?.2 hitem, rfl⟩

/-- The clauses one step further in are those that a step leads to. -/
theorem mem_children_iff {c inner : Clause} {step : ClauseStep} :
    (step, inner) ∈ c.children ↔ c.inner? step = some inner := by
  have hgroup : ∀ {α : Type} (step' : Nat → ClauseStep) (wrap : α → Clause) (items : List α),
      (∀ i, step ≠ step' i) → (step, inner) ∉ items.zipIdx.map fun m => (step' m.2, wrap m.1) := by
    intro α step' wrap items hne h
    obtain ⟨m, -, heq⟩ := List.mem_map.1 h
    exact hne m.2 (Prod.mk.inj heq).1.symm
  cases c with
  | rule r =>
      cases r with
      | oneOf rules =>
          cases step with
          | alternative i => exact mem_map_zipIdx_iff fun _ _ => ClauseStep.alternative.inj
          | condition | all _ | any _ | extraction =>
              exact iff_of_false (hgroup _ _ rules (by simp)) (by simp [inner?])
      | predicate p =>
          obtain ⟨condition, kind, extraction⟩ := p
          cases step <;> cases extraction <;> simp [children, inner?, eq_comm]
      | malformed flaw => exact iff_of_false List.not_mem_nil (by simp [inner?])
  | condition condition =>
      cases condition with
      | all conditions =>
          cases step with
          | all i => exact mem_map_zipIdx_iff fun _ _ => ClauseStep.all.inj
          | alternative _ | condition | any _ | extraction =>
              exact iff_of_false (hgroup _ _ conditions (by simp)) (by simp [inner?])
      | any conditions =>
          cases step with
          | any i => exact mem_map_zipIdx_iff fun _ _ => ClauseStep.any.inj
          | alternative _ | condition | all _ | extraction =>
              exact iff_of_false (hgroup _ _ conditions (by simp)) (by simp [inner?])
      | tag _ | malformed _ => exact iff_of_false List.not_mem_nil (by simp [inner?])
  | extraction x => exact iff_of_false List.not_mem_nil (by simp [inner?])

theorem pairwise_map_zipIdx {α : Type} {step : Nat → ClauseStep}
    (hstep : ∀ i j, i < j → (step i).Before (step j)) (wrap : α → Clause) (items : List α) :
    (items.zipIdx.map fun m => (step m.2, wrap m.1)).Pairwise fun a b => a.1.Before b.1 := by
  have hlt : (items.zipIdx.map Prod.snd).Pairwise fun i j => i < j := by
    rw [List.zipIdx_map_snd]
    exact List.pairwise_lt_range'
  rw [List.pairwise_map] at hlt ⊢
  exact hlt.imp fun h => hstep _ _ h

theorem pairwise_children (c : Clause) : c.children.Pairwise fun a b => a.1.Before b.1 := by
  cases c with
  | rule r =>
      cases r with
      | oneOf rules => exact pairwise_map_zipIdx (fun _ _ => .alternative) _ rules
      | predicate p =>
          obtain ⟨condition, kind, extraction⟩ := p
          cases extraction with
          | none => exact List.pairwise_singleton _ _
          | some x => exact List.pairwise_pair.2 .condition
      | malformed flaw => exact .nil
  | condition condition =>
      cases condition with
      | all conditions => exact pairwise_map_zipIdx (fun _ _ => .all) _ conditions
      | any conditions => exact pairwise_map_zipIdx (fun _ _ => .any) _ conditions
      | tag _ | malformed _ => exact .nil
  | extraction x => exact .nil

/-- Of two steps from one clause that lead somewhere, one leads further left. -/
theorem eq_or_before {c inner other : Clause} {s t : ClauseStep} (hs : c.inner? s = some inner)
    (ht : c.inner? t = some other) : s = t ∨ s.Before t ∨ t.Before s := by
  have hordered := c.pairwise_children
  exact List.Pairwise.forall_of_forall_of_flip
    (R := fun a b => a.1 = b.1 ∨ a.1.Before b.1 ∨ b.1.Before a.1) (fun _ _ => .inl rfl)
    (hordered.imp fun hbefore => .inr (.inl hbefore))
    (hordered.imp fun hbefore => .inr (.inr hbefore))
    (mem_children_iff.2 hs) (mem_children_iff.2 ht)

theorem sizeOf_lt_of_mem_children {c : Clause} {child : ClauseStep × Clause}
    (h : child ∈ c.children) : sizeOf child.2 < sizeOf c := by
  have hitem : ∀ {α : Type} [SizeOf α] {items : List α} {i : Nat} {item : α},
      items[i]? = some item → sizeOf item < sizeOf items :=
    fun h => List.sizeOf_lt_of_mem (List.mem_of_getElem? h)
  obtain ⟨step, inner⟩ := child
  have hinner := mem_children_iff.1 h
  unfold inner? at hinner
  split at hinner
  · obtain ⟨r, hr, rfl⟩ := Option.map_eq_some_iff.1 hinner
    have hlt := hitem hr
    simp only [rule.sizeOf_spec, Rule.oneOf.sizeOf_spec]
    omega
  · next p =>
    have hlt := p.sizeOf_condition_lt
    obtain rfl := Option.some.inj hinner
    simp only [rule.sizeOf_spec, condition.sizeOf_spec, Rule.predicate.sizeOf_spec]
    omega
  · obtain ⟨x, hx, rfl⟩ := Option.map_eq_some_iff.1 hinner
    have hlt := Predicate.sizeOf_lt_of_extraction hx
    simp only [rule.sizeOf_spec, extraction.sizeOf_spec, Rule.predicate.sizeOf_spec]
    omega
  · obtain ⟨c, hc, rfl⟩ := Option.map_eq_some_iff.1 hinner
    have hlt := hitem hc
    simp only [condition.sizeOf_spec, Condition.all.sizeOf_spec]
    omega
  · obtain ⟨c, hc, rfl⟩ := Option.map_eq_some_iff.1 hinner
    have hlt := hitem hc
    simp only [condition.sizeOf_spec, Condition.any.sizeOf_spec]
    omega
  · cases hinner

/-- What holds of a clause if it holds of the clauses one step further in holds of all clauses. -/
theorem children_induction {motive : Clause → Prop}
    (step : ∀ c, (∀ child ∈ c.children, motive child.2) → motive c) (c : Clause) : motive c :=
  step c fun child _ => children_induction step child.2
termination_by sizeOf c
decreasing_by exact sizeOf_lt_of_mem_children ‹_›

/-! ## Lists of clauses -/

variable {α : Type} {own : Clause → Option α} {list : Clause → List (ClausePath × α)}

/-- Whether the clauses that have something to show, each with the path to it, are listed one by
one: first the clause itself, then the clauses in it from left to right. -/
def Lists (own : Clause → Option α) (list : Clause → List (ClausePath × α)) : Prop :=
  ∀ c, list c = (own c).toList.map (fun a => ([], a)) ++
    c.children.flatMap fun child => (list child.2).map fun found => (child.1 :: found.1, found.2)

/-- What is listed is what some path leads to. -/
theorem Lists.mem_iff (h : Lists own list) {c : Clause} {path : ClausePath} {a : α} :
    (path, a) ∈ list c ↔ ∃ found, c.at? path = some found ∧ own found = some a := by
  induction path generalizing c with
  | nil =>
      rw [h c]
      simp [eq_comm]
  | cons step path ih =>
      rw [h c]
      simp only [at?_cons_eq_some_iff, List.mem_append, List.mem_map, List.mem_flatMap]
      constructor
      · rintro (⟨_, _, heq⟩ | ⟨⟨step', inner⟩, hinner, found, hfound, heq⟩)
        · cases heq
        · obtain ⟨hpath, rfl⟩ := Prod.mk.inj heq
          obtain ⟨rfl, rfl⟩ := List.cons.inj hpath
          obtain ⟨last, hlast, hown⟩ := ih.1 hfound
          exact ⟨last, ⟨inner, mem_children_iff.1 hinner, hlast⟩, hown⟩
      · rintro ⟨last, ⟨inner, hinner, hlast⟩, hown⟩
        exact .inr ⟨(step, inner), mem_children_iff.2 hinner, (path, a),
          ih.2 ⟨last, hlast, hown⟩, rfl⟩

/-- What is listed is in the order of the tree, and nothing is listed twice. -/
theorem Lists.pairwise (h : Lists own list) (c : Clause) :
    (list c).Pairwise fun x y => ClausePath.Precedes x.1 y.1 := by
  induction c using children_induction with
  | step c ih =>
      rw [h c, List.pairwise_append]
      refine ⟨?_, ?_, ?_⟩
      · cases own c with
        | none => exact .nil
        | some a => exact List.pairwise_singleton _ _
      · rw [List.pairwise_flatMap]
        constructor
        · intro child hchild
          rw [List.pairwise_map]
          exact (ih child hchild).imp fun hlt => .cons hlt
        · refine c.pairwise_children.imp fun hbefore x hx y hy => ?_
          obtain ⟨found, -, rfl⟩ := List.mem_map.1 hx
          obtain ⟨found', -, rfl⟩ := List.mem_map.1 hy
          exact .rel hbefore
      · intro x hx y hy
        obtain ⟨a, -, rfl⟩ := List.mem_map.1 hx
        obtain ⟨child, -, hy⟩ := List.mem_flatMap.1 hy
        obtain ⟨found, -, rfl⟩ := List.mem_map.1 hy
        exact .nil

end Clause

end Prospector
