import Prospector.Proofs.Rule.Clause
import Prospector.Proofs.Rule.Language

/-!
# Filters of extractions

An extraction may be narrowed by filters: an attribute, its value, and a part of the text. A filter
that is written as a string is read as it stands. One that is written as anything else is passed
over as if it were not there, and no problem is reported for it, unlike a check in a condition,
which is malformed then: of an extraction only the tag is looked at when problems are reported.

## Main definitions

* `Json.ruleAt?` : the rule written in some place of a value.
* `Extraction.filters` : the filters of an extraction with the keys they are written under.
* `Json.IsKept` : whether a filter is read as it is written.

## Main results

* `Rule.at?_ofJson` : what is written in a place is read into this place.
* `Rule.filters_of_strings` : which filters of a rule without problems are kept.
* `Rule.not_filters_kept_number` : a filter that is a number is passed over in silence.
-/

namespace Prospector

/-! ## Rules in their places -/

namespace Json

/-- The rule written as the alternative with the given index. -/
def alternative? (index : Nat) : Json → Option Json
  | .object members => ((member? "or" members).bind array?).bind fun items => items[index]?
  | _ => none

/-- The rule written in the place that the indices of alternatives lead to. -/
def ruleAt? : Json → List Nat → Option Json
  | v, [] => some v
  | v, index :: indices => (v.alternative? index).bind fun u => u.ruleAt? indices

theorem exists_of_alternative? {v u : Json} {index : Nat} (h : v.alternative? index = some u) :
    ∃ members items, v = .object members ∧ member? "or" members = some (.array items) ∧
      items[index]? = some u := by
  cases v with
  | object members =>
      obtain ⟨items, hitems, hu⟩ := Option.bind_eq_some_iff.1 h
      obtain ⟨w, hw, harray⟩ := Option.bind_eq_some_iff.1 hitems
      obtain rfl := eq_array_of_array? harray
      exact ⟨members, items, rfl, hw, hu⟩
  | null | bool _ | number _ | string _ | array _ => cases h

theorem ruleAt?_cons_eq_some_iff {v w : Json} {index : Nat} {indices : List Nat} :
    v.ruleAt? (index :: indices) = some w ↔
      ∃ u, v.alternative? index = some u ∧ u.ruleAt? indices = some w := by
  rw [ruleAt?, Option.bind_eq_some_iff]

/-- The rules in a value that is written as a rule are written as rules. -/
theorem WritesRule.ruleAt? {v w : Json} {indices : List Nat} (hv : v.WritesRule)
    (h : v.ruleAt? indices = some w) : w.WritesRule := by
  induction indices generalizing v with
  | nil =>
      obtain rfl := Option.some.inj h
      exact hv
  | cons index indices ih =>
      obtain ⟨u, hu, hw⟩ := ruleAt?_cons_eq_some_iff.1 h
      obtain ⟨members, items, rfl, hor, hitem⟩ := exists_of_alternative? hu
      refine ih ?_ hw
      cases hv with
      | oneOf hor' hall =>
          obtain rfl := array.inj (Option.some.inj (hor'.symm.trans hor))
          exact hall u (List.mem_of_getElem? hitem)
      | predicate hnone => cases hnone.symm.trans hor

end Json

/-- What is written in a place is read into this place. -/
theorem Rule.at?_ofJson {v w : Json} {indices : List Nat} (h : v.ruleAt? indices = some w) :
    (Clause.rule (ofJson v)).at? (indices.map .alternative) = some (.rule (ofJson w)) := by
  induction indices generalizing v with
  | nil =>
      obtain rfl := Option.some.inj h
      rfl
  | cons index indices ih =>
      obtain ⟨u, hu, hw⟩ := Json.ruleAt?_cons_eq_some_iff.1 h
      obtain ⟨members, items, rfl, hor, hitem⟩ := Json.exists_of_alternative? hu
      refine Clause.at?_cons_eq_some_iff.2 ⟨.rule (ofJson u), ?_, ih hw⟩
      have honeOf : ofJson (.object members) = .oneOf (ruleList items) := by
        rw [ofJson, alternatives_eq, hor]
        rfl
      rw [honeOf, Clause.inner?, ruleList_eq, List.getElem?_map, hitem]
      rfl

/-! ## Filters -/

/-- The filters of an extraction, with the keys that they are written under. -/
def Extraction.filters : List (String × (Extraction → Option String)) :=
  [("attribute", attr), ("value", value), ("text_contains", text)]

/-- Whether a filter that is there, and is not `null`, is a string and is kept as it is written. -/
def Json.IsKept (written : Option Json) (filter : Option String) : Prop :=
  ∀ v, written = some v → v ≠ .null → ∃ s, v = .string s ∧ filter = some s

theorem Json.isKept_bind_string?_iff (written : Option Json) :
    IsKept written (written.bind string?) ↔ IsOptionalText written := by
  constructor
  · intro h
    cases written with
    | none => exact .absent
    | some v =>
        by_cases hnull : v = .null
        · exact hnull ▸ .null
        · obtain ⟨s, rfl, -⟩ := h v rfl hnull
          exact .string s
  · rintro h v hv hnull
    cases h with
    | absent => cases hv
    | null => exact absurd (Option.some.inj hv).symm hnull
    | string s => exact ⟨s, (Option.some.inj hv).symm, rfl⟩

/-- Filters are read as they are if they are strings and passed over otherwise. -/
theorem Extraction.filter_ofJson (members : Members) : ∀ filter ∈ filters,
    filter.2 (ofJson (.object members)) = (Json.member? filter.1 members).bind Json.string? := by
  intro filter hfilter
  simp only [filters, List.mem_cons, List.not_mem_nil, or_false] at hfilter
  rcases hfilter with rfl | rfl | rfl <;> rfl

/-- Wherever in a rule without problems a predicate is written with an object under `extract`, it is
read with an extraction that has the tag that is written. A filter is kept if it is written as a
string, and passed over if it is written as anything else. So a filter that is there and not `null`
is lost just if it is no string, and this is never reported: whether an extraction has problems is
decided by its tag. -/
theorem Rule.filters_of_strings (v : Json) (indices : List Nat) (members written : Members)
    (hproblems : (ofJson v).problems = []) (hrule : v.ruleAt? indices = some (.object members))
    (hor : Json.member? "or" members = none)
    (hextract : Json.member? "extract" members = some (.object written)) :
    ∃ p x, (Clause.rule (ofJson v)).at? (indices.map .alternative) =
          some (.rule (.predicate p)) ∧ p.extraction = some x ∧
        Json.member? "from_tag" written = some (.string x.tag) ∧ x.tag ≠ "" ∧
        (∀ filter ∈ Extraction.filters,
          filter.2 x = (Json.member? filter.1 written).bind Json.string? ∧
            (Json.IsKept (Json.member? filter.1 written) (filter.2 x) ↔
              Json.IsOptionalText (Json.member? filter.1 written))) ∧
        ∀ w : Json, (Extraction.ofJson w).problems = [] ↔ w.WritesExtraction := by
  have hwrites := ((problems_ofJson_eq_nil_iff v).1 hproblems).ruleAt? hrule
  cases hwrites with
  | oneOf hsome => cases hor.symm.trans hsome
  | @predicate _ kind condition _ hkind hcondition _ hall =>
      have hread : ofJson (.object members) = .predicate {
          condition := Condition.ofJson condition
          kind
          extraction := some (Extraction.ofJson (.object written)) } := by
        rw [ofJson, alternatives_eq, hor]
        show ofPredicate members = _
        rw [ofPredicate, hcondition, hkind, hextract]
        rfl
      have hat := at?_ofJson hrule
      rw [hread] at hat
      refine ⟨_, Extraction.ofJson (.object written), hat, rfl, ?_⟩
      cases hall _ hextract with
      | @object _ tag htag hne =>
          have hx : (Extraction.ofJson (.object written)).tag = tag := by
            rw [Extraction.ofJson, stringOf, htag]
            rfl
          rw [hx]
          refine ⟨htag, hne, ?_, Extraction.problems_ofJson_eq_nil_iff⟩
          intro filter hfilter
          have hfound := Extraction.filter_ofJson written filter hfilter
          rw [hfound]
          exact ⟨rfl, Json.isKept_bind_string?_iff _⟩

/-- A predicate whose extraction has the given members. -/
def Json.narrowed (written : Members) : Members :=
  [("condition", .object [("tag", .string "h1")]), ("extract", .object written),
    ("type", .string "tea")]

/-- In an alternative, the attribute is kept and the number that should be its value is not. -/
theorem Rule.filters_of_strings_narrowed :
    let written : Members :=
      [("attribute", .string "class"), ("from_tag", .string "p"), ("value", .number (.int 5))]
    let v : Json := .object [("or", .array [.object (Json.narrowed written)])]
    (ofJson v).problems = [] ∧
      ∃ p x, (Clause.rule (ofJson v)).at? [.alternative 0] = some (.rule (.predicate p)) ∧
        p.extraction = some x ∧ x.attr = some "class" ∧ x.value = none ∧
        ¬Json.IsKept (Json.member? "value" written) x.value := by
  intro written v
  have hproblems : (ofJson v).problems = [] := by decide +kernel
  obtain ⟨p, x, hat, hx, -, -, hfilters, -⟩ :=
    filters_of_strings v [0] (Json.narrowed written) written hproblems rfl rfl rfl
  obtain ⟨hattr, -⟩ := hfilters ("attribute", Extraction.attr) (.head _)
  obtain ⟨hvalue, hkept⟩ := hfilters ("value", Extraction.value) (.tail _ (.head _))
  refine ⟨hproblems, p, x, hat, hx, hattr, hvalue, fun h => ?_⟩
  have htext : Json.IsOptionalText (some (.number (.int 5))) := hkept.1 h
  cases htext

/-- A filter that is written as a number is not kept, and not reported. -/
theorem Rule.not_filters_kept_number :
    ¬∀ (v : Json) (indices : List Nat) (members written : Members),
      (ofJson v).problems = [] → v.ruleAt? indices = some (.object members) →
      Json.member? "or" members = none →
      Json.member? "extract" members = some (.object written) →
      ∃ p x, (Clause.rule (ofJson v)).at? (indices.map .alternative) =
          some (.rule (.predicate p)) ∧ p.extraction = some x ∧
        ∀ filter ∈ Extraction.filters,
          Json.IsKept (Json.member? filter.1 written) (filter.2 x) := by
  intro h
  let written : Members :=
    [("attribute", .string "class"), ("from_tag", .string "p"), ("value", .number (.int 5))]
  obtain ⟨p, x, -, -, hkept⟩ := h (.object (Json.narrowed written)) []
    (Json.narrowed written) written (by decide +kernel) rfl rfl rfl
  obtain ⟨s, hs, -⟩ := hkept ("value", Extraction.value) (.tail _ (.head _))
    (.number (.int 5)) rfl (by simp)
  cases hs

end Prospector
