import Prospector.Proofs.Text.Utf8
import Prospector.Rule.Evaluation

/-!
# What rules mean

A rule is read as the list of its predicates from left to right, its leaves: however deep they are
nested, and whatever malformed clauses and empty groups stand among them, the first leaf whose
condition holds classifies a document, with its own kind and its own extraction. What a condition
asks for is said by the truth of conjunctions and disjunctions alone, without regard to the order in
which its clauses are looked at.

## Main definitions

* `Condition.Holds` : the truth of a condition on a document.
* `Rule.leaves` : the predicates of a rule, from left to right.
* `Rule.bare` : a rule without its extractions.

## Main results

* `Condition.value_evaluate_iff` : evaluation finds the truth of a condition.
* `Rule.value_classify` : a rule classifies as its first leaf that holds.
* `Rule.classify_first_leaf` : classification in terms of leaves and truth only.
-/

namespace Prospector

/-! ## Checks -/

/-- What a check asks of an element's text, trimmed: that the given part stands in it, or that it is
not empty. -/
def TextCheck.Holds (e : Element) : TextCheck → Prop
  | .contains part => part.toList <:+: (Text.trim e.text).toList
  | .nonEmpty wanted => wanted = true → Text.trim e.text ≠ ""

theorem TextCheck.passes_iff (e : Element) (check : TextCheck) :
    check.passes e = true ↔ check.Holds e := by
  cases check with
  | contains part => exact Text.occursIn_iff
  | nonEmpty wanted => cases wanted <;> simp [passes, Holds]

/-- What a check asks of one element: each of its parts, as far as they are given. -/
structure TagCheck.Suits (c : TagCheck) (e : Element) : Prop where
  attr : ∀ name, c.attr = some name → e.attr name = c.value
  content : ∀ expected, c.content = some expected → e.attr "content" = some expected
  text : ∀ check, c.text = some check → check.Holds e

theorem TagCheck.passes_iff (c : TagCheck) (e : Element) : c.passes e = true ↔ c.Suits e := by
  obtain ⟨tag, presence, attr, value, content, text⟩ := c
  simp only [passes, Bool.and_eq_true]
  constructor
  · rintro ⟨⟨hattr, hcontent⟩, htext⟩
    refine ⟨?_, ?_, ?_⟩
    · rintro name rfl
      simpa using hattr
    · rintro expected rfl
      simpa using hcontent
    · rintro check rfl
      exact (check.passes_iff e).1 htext
  · intro h
    refine ⟨⟨?_, ?_⟩, ?_⟩
    · cases attr with
      | none => rfl
      | some name => simpa using h.attr name rfl
    · cases content with
      | none => rfl
      | some expected => simpa using h.content expected rfl
    · cases text with
      | none => rfl
      | some check => exact (check.passes_iff e).2 (h.text check rfl)

/-- What a check asks of a document: that there is an element of the tag, or that a single element
of the tag satisfies all parts of the check. -/
def TagCheck.Holds (d : Document) (c : TagCheck) : Prop :=
  if c.presence then d.elements c.tag ≠ [] else ∃ e ∈ d.elements c.tag, c.Suits e

theorem TagCheck.satisfiedBy_iff (d : Document) (c : TagCheck) :
    c.satisfiedBy (d.elements c.tag) = true ↔ c.Holds d := by
  unfold satisfiedBy Holds
  by_cases hpresence : c.presence = true
  · simp [hpresence]
  · simp [hpresence, passes_iff]

/-! ## Conditions -/

namespace Condition

/-- The truth of a condition: that of a conjunction, of a disjunction or of a check. A malformed
clause is never true. -/
inductive Holds (d : Document) : Condition → Prop
  | all {conditions : List Condition} :
      (∀ c ∈ conditions, Holds d c) → Holds d (.all conditions)
  | any {conditions : List Condition} {c : Condition} :
      c ∈ conditions → Holds d c → Holds d (.any conditions)
  | tag {check : TagCheck} : check.Holds d → Holds d (.tag check)

variable {d : Document}

theorem holds_all_iff {conditions : List Condition} :
    (Condition.all conditions).Holds d ↔ ∀ c ∈ conditions, c.Holds d := by
  constructor
  · intro h
    cases h with
    | all hall => exact hall
  · exact .all

theorem holds_any_iff {conditions : List Condition} :
    (Condition.any conditions).Holds d ↔ ∃ c ∈ conditions, c.Holds d := by
  constructor
  · intro h
    cases h with
    | any hmem hc => exact ⟨_, hmem, hc⟩
  · rintro ⟨c, hmem, hc⟩
    exact .any hmem hc

theorem holds_tag_iff {check : TagCheck} : (Condition.tag check).Holds d ↔ check.Holds d := by
  constructor
  · intro h
    cases h with
    | tag hcheck => exact hcheck
  · exact .tag

theorem not_holds_malformed (flaw : ClauseFlaw) : ¬(Condition.malformed flaw).Holds d := by
  intro h
  cases h

end Condition

mutual

/-- Evaluation finds the truth of a condition. -/
theorem Condition.value_evaluate_iff (d : Document) :
    ∀ c : Condition, (c.evaluate d).value = true ↔ c.Holds d
  | .all conditions => (value_evaluateAll_iff d conditions).trans Condition.holds_all_iff.symm
  | .any conditions => (value_evaluateAny_iff d conditions).trans Condition.holds_any_iff.symm
  | .tag check => (check.satisfiedBy_iff d).trans Condition.holds_tag_iff.symm
  | .malformed flaw => by
      constructor
      · intro h
        exact nomatch h
      · intro h
        exact absurd h (Condition.not_holds_malformed flaw)

theorem value_evaluateAll_iff (d : Document) : ∀ conditions : List Condition,
    (evaluateAll d conditions).value = true ↔ ∀ c ∈ conditions, c.Holds d
  | [] => by simp [evaluateAll]
  | c :: rest => by
      rw [List.forall_mem_cons, ← c.value_evaluate_iff d, ← value_evaluateAll_iff d rest]
      rw [evaluateAll, Traced.value_andThen]
      cases (c.evaluate d).value <;> simp

theorem value_evaluateAny_iff (d : Document) : ∀ conditions : List Condition,
    (evaluateAny d conditions).value = true ↔ ∃ c ∈ conditions, c.Holds d
  | [] => by simp [evaluateAny]
  | c :: rest => by
      rw [List.exists_mem_cons_iff, ← c.value_evaluate_iff d, ← value_evaluateAny_iff d rest]
      rw [evaluateAny, Traced.value_andThen]
      cases (c.evaluate d).value <;> simp

end

instance (d : Document) (c : Condition) : Decidable (c.Holds d) :=
  decidable_of_iff _ (c.value_evaluate_iff d)

/-! ## Leaves -/

mutual

/-- The predicates of a rule, from left to right. -/
def Rule.leaves : Rule → List Predicate
  | .oneOf rules => leavesOf rules
  | .predicate p => [p]
  | .malformed _ => []

/-- The predicates of several rules, from left to right. -/
def leavesOf : List Rule → List Predicate
  | [] => []
  | r :: rest => r.leaves ++ leavesOf rest

end

/-- The classification of a document on which the condition of a predicate holds. -/
def Predicate.classification (d : Document) (p : Predicate) : Classification :=
  { kind := p.kind, fragment := p.extraction.bind fun x => (x.run d).value }

theorem Predicate.value_extract (d : Document) (p : Predicate) :
    (p.extract d).value = p.extraction.bind fun x => (x.run d).value := by
  unfold extract
  cases p.extraction <;> rfl

theorem Predicate.value_classify (d : Document) (p : Predicate) :
    (p.classify d).value = if p.condition.Holds d then some (p.classification d) else none := by
  rw [classify, Traced.value_andThen]
  by_cases h : p.condition.Holds d
  · rw [(p.condition.value_evaluate_iff d).2 h, if_pos rfl, if_pos h, Traced.value_map,
      p.value_extract]
    rfl
  · rw [if_neg h, if_neg (mt (p.condition.value_evaluate_iff d).1 h)]
    rfl

/-- The first leaf whose condition holds. -/
def firstLeaf? (d : Document) (leaves : List Predicate) : Option Predicate :=
  leaves.find? fun p => decide (p.condition.Holds d)

mutual

/-- A rule classifies as its first leaf that holds. -/
theorem Rule.value_classify (d : Document) : ∀ r : Rule,
    (r.classify d).value = (firstLeaf? d r.leaves).map (Predicate.classification d)
  | .oneOf rules => value_classifyFirst d rules
  | .predicate p => by
      rw [Rule.classify, p.value_classify, Rule.leaves, firstLeaf?, List.find?_singleton]
      by_cases h : p.condition.Holds d <;> simp [h]
  | .malformed _ => rfl

theorem value_classifyFirst (d : Document) : ∀ rules : List Rule,
    (classifyFirst d rules).value =
      (firstLeaf? d (leavesOf rules)).map (Predicate.classification d)
  | [] => rfl
  | r :: rest => by
      show ((r.classify d).andThen _).value = _
      rw [Traced.value_andThen, leavesOf, firstLeaf?, List.find?_append]
      show _ = ((firstLeaf? d r.leaves).or (firstLeaf? d (leavesOf rest))).map _
      rw [r.value_classify d]
      cases firstLeaf? d r.leaves with
      | none => exact value_classifyFirst d rest
      | some p => rfl

end

/-! ## Rules without extractions -/

/-- A predicate without its extraction. -/
def Predicate.bare (p : Predicate) : Predicate :=
  { p with extraction := none }

mutual

/-- A rule without its extractions. -/
def Rule.bare : Rule → Rule
  | .oneOf rules => .oneOf (bareRules rules)
  | .predicate p => .predicate p.bare
  | .malformed flaw => .malformed flaw

/-- Rules without their extractions. -/
def bareRules : List Rule → List Rule
  | [] => []
  | r :: rest => r.bare :: bareRules rest

end

mutual

theorem Rule.leaves_bare : ∀ r : Rule, r.bare.leaves = r.leaves.map Predicate.bare
  | .oneOf rules => leavesOf_bareRules rules
  | .predicate _ => rfl
  | .malformed _ => rfl

theorem leavesOf_bareRules : ∀ rules : List Rule,
    leavesOf (bareRules rules) = (leavesOf rules).map Predicate.bare
  | [] => rfl
  | r :: rest => by
      rw [bareRules, leavesOf, leavesOf, List.map_append, r.leaves_bare, leavesOf_bareRules rest]

end

theorem firstLeaf?_map_bare (d : Document) (leaves : List Predicate) :
    firstLeaf? d (leaves.map Predicate.bare) = (firstLeaf? d leaves).map Predicate.bare := by
  rw [firstLeaf?, List.find?_map]
  rfl

/-- The kind that a rule finds depends on the conditions and the kinds of its leaves only. -/
theorem Rule.kind_classify_bare (d : Document) (r : Rule) :
    (r.bare.classify d).value.map Classification.kind =
      (r.classify d).value.map Classification.kind := by
  rw [value_classify, value_classify, leaves_bare, firstLeaf?_map_bare]
  simp only [Option.map_map]
  rfl

/-! ## Classification -/

/-- The first leaf that holds has leaves before it that do not hold, and every such leaf is the
first one. -/
theorem firstLeaf?_eq_some_iff (d : Document) (leaves : List Predicate) (p : Predicate) :
    firstLeaf? d leaves = some p ↔
      ∃ before after, leaves = before ++ p :: after ∧
        (∀ q ∈ before, ¬q.condition.Holds d) ∧ p.condition.Holds d := by
  rw [firstLeaf?, List.find?_eq_some_iff_append]
  simp only [decide_eq_true_eq, Bool.not_eq_true', decide_eq_false_iff_not]
  constructor
  · rintro ⟨hp, before, after, hleaves, hbefore⟩
    exact ⟨before, after, hleaves, hbefore, hp⟩
  · rintro ⟨before, after, hleaves, hbefore, hp⟩
    exact ⟨hp, before, after, hleaves, hbefore⟩

/-- A rule, however deep it is nested, is read as the list of its leaves. It classifies a document
just if the condition of some leaf holds. The classification is that of the first such leaf: its
kind, and what its own extraction finds, or nothing if it has none. Rules that differ in their
extractions only classify the same documents, and with the same kinds. -/
theorem Rule.classify_first_leaf (d : Document) (r : Rule) :
    ((r.classify d).value.isSome = true ↔ ∃ p ∈ r.leaves, p.condition.Holds d) ∧
      (∀ c : Classification, (r.classify d).value = some c ↔
        ∃ before p after, r.leaves = before ++ p :: after ∧
          (∀ q ∈ before, ¬q.condition.Holds d) ∧ p.condition.Holds d ∧
          c.kind = p.kind ∧ c.fragment = p.extraction.bind fun x => (x.run d).value) ∧
      ∀ other : Rule, other.bare = r.bare →
        (other.classify d).value.map Classification.kind =
          (r.classify d).value.map Classification.kind := by
  refine ⟨?_, ?_, ?_⟩
  · rw [r.value_classify d, Option.isSome_map, firstLeaf?, List.find?_isSome]
    simp only [decide_eq_true_eq]
  · intro c
    rw [r.value_classify d, Option.map_eq_some_iff]
    constructor
    · rintro ⟨p, hp, rfl⟩
      obtain ⟨before, after, hleaves, hbefore, hholds⟩ := (firstLeaf?_eq_some_iff d _ p).1 hp
      exact ⟨before, p, after, hleaves, hbefore, hholds, rfl, rfl⟩
    · rintro ⟨before, p, after, hleaves, hbefore, hholds, hkind, hfragment⟩
      refine ⟨p, (firstLeaf?_eq_some_iff d _ p).2 ⟨before, after, hleaves, hbefore, hholds⟩, ?_⟩
      obtain ⟨kind, fragment⟩ := c
      rw [Predicate.classification, ← hkind, ← hfragment]
  · intro other hbare
    rw [← other.kind_classify_bare d, hbare, r.kind_classify_bare d]

/-- A page with a heading and two paragraphs, of which the first one is marked as the price and the
second one names it. -/
def Document.leaflet : Document where
  elements
    | "h1" => [{ attr := fun _ => none, chunks := [" Tea "], markup := "<h1> Tea </h1>" }]
    | "p" =>
      [{ attr := fun name => if name = "class" then some "price" else none
         chunks := ["soon"]
         markup := "<p class=\"price\">soon</p>" },
        { attr := fun _ => none, chunks := ["3 ", "EUR"], markup := "<p>3 <b>EUR</b></p>" }]
    | _ => []

/-- The first paragraph or the second one would do for each part of this check, but none for all. -/
def leafletPrice : Predicate where
  condition := .tag
    { tag := "p", attr := some "class", value := some "price", text := some (.contains "EUR") }
  kind := "price"
  extraction := none

/-- A leaf that holds behind a malformed clause, with an extraction. -/
def leafletTea (extraction : Option Extraction) : Predicate where
  condition := .any [.malformed .noTag, .all [.tag { tag := "h1", presence := true }, .all []]]
  kind := "tea"
  extraction := extraction

/-- A rule with malformed and empty alternatives before the first leaf that holds. -/
def leafletRule (extraction : Option Extraction) : Rule :=
  .oneOf [.malformed .noType, .oneOf [], .oneOf [.predicate leafletPrice],
    .oneOf [.predicate (leafletTea extraction),
      .predicate { condition := .all [], kind := "any", extraction := none }]]

/-- No paragraph is both marked as the price and names it, so the page is one about tea; it is so
too if something else is extracted. -/
theorem Rule.classify_first_leaf_leaflet :
    ((leafletRule (some { tag := "h1" })).classify .leaflet).value =
        some ⟨"tea", some ⟨"<h1> Tea </h1>", "Tea"⟩⟩ ∧
      (leafletRule none).bare = (leafletRule (some { tag := "h1" })).bare ∧
      ((leafletRule none).classify .leaflet).value.map Classification.kind = some "tea" := by
  obtain ⟨-, hfirst, hother⟩ :=
    classify_first_leaf .leaflet (leafletRule (some { tag := "h1" }))
  have htea := (hfirst ⟨"tea", some ⟨"<h1> Tea </h1>", "Tea"⟩⟩).2
    ⟨[leafletPrice], leafletTea (some { tag := "h1" }), _, rfl, by decide +kernel,
      by decide +kernel, rfl, by decide +kernel⟩
  refine ⟨htea, rfl, ?_⟩
  rw [hother (leafletRule none) rfl, htea]
  rfl

end Prospector
