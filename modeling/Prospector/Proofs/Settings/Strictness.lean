import Prospector.Proofs.Settings.Validation

/-!
# Strict and lenient validation

Settings say whether malformed rules are refused. Strict validation takes the problems of a rule for
a violation, lenient validation makes a warning of each of them and goes on. Otherwise they look at
the same things in the same order, so what strict validation comes to can be read off the result of
lenient validation, also if that ends in a violation: if there was a warning, the first source that
was warned about has a malformed rule, and else the results are the same.

## Main definitions

* `Settings.judged` : settings with their rules judged strictly or not.
* `Validation.hardened` : the strict result for a lenient one.

## Main results

* `Settings.validate_judged_true` : strict validation is lenient validation, hardened.
* `Settings.strict_iff_silent` : when strict validation succeeds, what lenient validation warns of,
  and which violation strict validation makes of the warnings.
-/

namespace Prospector

/-- What a lenient result comes to if warnings are not put up with: the problems of the source that
the first warning is about are a violation. -/
def Validation.hardened (v : Validation) : Validation :=
  match v.warnings with
  | [] => v
  | first :: _ =>
    { violation := some (.malformedRule first.source
        ((v.warnings.filter fun w => w.source == first.source).map Warning.problem)) }

theorem Validation.violation_hardened_eq_none_iff (v : Validation) :
    v.hardened.violation = none ↔ v.violation = none ∧ v.warnings = [] := by
  unfold hardened
  cases hwarnings : v.warnings with
  | nil => simp
  | cons first rest => simp

/-- Warnings that all bear one name come first, and no later warning bears it. -/
theorem Validation.hardened_append {name : String} {problems : List Problem} {later : Validation}
    (hne : problems ≠ []) (hlater : ∀ w ∈ later.warnings, w.source ≠ name) :
    ({ later with
        warnings := (problems.map fun p => ⟨name, p⟩) ++ later.warnings } : Validation).hardened =
      { violation := some (.malformedRule name problems) } := by
  have hown : ((problems.map fun p => Warning.mk name p).filter fun w => w.source == name) =
      problems.map fun p => ⟨name, p⟩ :=
    List.filter_eq_self.2 (by simp)
  have hother : (later.warnings.filter fun w => w.source == name) = [] := by simpa using hlater
  obtain ⟨p, ps, rfl⟩ := List.exists_cons_of_ne_nil hne
  have hproblems : ((((p :: ps).map fun p => Warning.mk name p) ++ later.warnings).filter
      fun w => w.source == name).map Warning.problem = p :: ps := by
    rw [List.filter_append, hown, hother, List.append_nil, List.map_map]
    simp [Function.comp_def]
  exact congrArg (fun ps => ({ violation := some (.malformedRule name ps) } : Validation)) hproblems

theorem Violation.message_malformedRule (name : String) (problems : List Problem) :
    (Violation.malformedRule name problems).message =
      "Validation error: Source '" ++ name ++ "' has malformed detection rules: " ++
        "; ".intercalate (problems.map Problem.message) := by
  have hfront : "Validation error: Source '" = "Validation error: " ++ ("Source " ++ "'") := rfl
  have hback : "' has malformed detection rules: " =
      "'" ++ " has malformed detection rules: " := rfl
  rw [hfront, hback]
  show "Validation error: " ++ ("Source " ++ ("'" ++ name ++ "'") ++
    " has malformed detection rules: " ++ "; ".intercalate (problems.map Problem.message)) = _
  simp only [String.append_assoc]

/-! ## Sources -/

/-- A violation that lenient validation finds in a source is found by strict validation too. -/
theorem Source.violation?_true_of_some {names : List String} {s : Source} {v : Violation}
    (h : s.violation? false names = some v) : s.violation? true names = some v := by
  unfold violation? at h ⊢
  split at h
  · next hname => rwa [if_pos hname]
  · next hname =>
    rw [if_neg hname]
    split at h
    · next hold => rwa [if_pos hold]
    · next hnew =>
      rw [if_neg hnew]
      split at h
      · exact h
      · next hurl =>
        split at h
        · next hrule => rwa [if_pos hrule]
        · cases h

/-- Warnings are about sources whose names have not been used before. -/
theorem source_not_mem_of_mem_warnings {strict : Bool} {names : List String}
    {sources : List Source} {w : Warning}
    (hw : w ∈ (validateSources strict names sources).warnings) : w.source ∉ names := by
  induction sources generalizing names with
  | nil => simp [validateSources] at hw
  | cons s rest ih =>
      rw [validateSources] at hw
      cases hviolation : s.violation? strict names with
      | some v => simp [hviolation] at hw
      | none =>
          have hnew : s.name ∉ names := ((s.violation?_eq_none_iff strict names).1 hviolation).1
          simp only [hviolation, List.mem_append] at hw
          rcases hw with hown | hlater
          · obtain ⟨p, -, rfl⟩ := List.mem_map.1 hown
            exact hnew
          · have hfresh := ih hlater
            intro hmem
            exact hfresh (List.mem_cons_of_mem s.name hmem)

/-- Strict validation of sources is lenient validation, hardened. -/
theorem validateSources_true (names : List String) (sources : List Source) :
    validateSources true names sources = (validateSources false names sources).hardened := by
  induction sources generalizing names with
  | nil => rfl
  | cons s rest ih =>
      cases hlenient : s.violation? false names with
      | some v =>
          have hstrict := Source.violation?_true_of_some hlenient
          simp [validateSources, hlenient, hstrict, Validation.hardened]
      | none =>
          have hstrict := Source.violation?_true_of_lenient hlenient
          by_cases hproblems : s.problems = []
          · have hnone : s.ruleViolation? = none := s.ruleViolation?_eq_none_iff.2 hproblems
            have hsilent : s.warnings = [] := by simp [Source.warnings, hproblems]
            simp [validateSources, hlenient, hstrict, hnone, hsilent, ih]
          · -- the warnings about `s` come first, and no other source bears its name
            have hsome : s.ruleViolation? = some (.malformedRule s.name s.problems) := by
              simp [Source.ruleViolation?, hproblems]
            have hlater : ∀ w ∈ (validateSources false (s.name :: names) rest).warnings,
                w.source ≠ s.name := by
              intro w hw heq
              have hfresh := source_not_mem_of_mem_warnings hw
              exact hfresh (by simp [heq])
            have hhardened := Validation.hardened_append hproblems hlater
            simp only [validateSources, hlenient, hstrict, hsome]
            exact hhardened.symm

/-- If nothing is wrong with sources, the warnings about them are the problems of all rules. -/
theorem warnings_validateSources {strict : Bool} {names : List String} {sources : List Source}
    (h : (validateSources strict names sources).violation = none) :
    (validateSources strict names sources).warnings = sources.flatMap Source.warnings := by
  induction sources generalizing names with
  | nil => rfl
  | cons s rest ih =>
      rw [validateSources] at h ⊢
      cases hviolation : s.violation? strict names with
      | some v => simp [hviolation] at h
      | none =>
          simp only [hviolation] at h ⊢
          rw [ih h, List.flatMap_cons]

/-- If lenient validation finds nothing wrong with sources, strict validation finds what is wrong
with the rule of the first one that has a malformed rule. -/
theorem violation_validateSources_true {names : List String} {sources : List Source}
    (h : (validateSources false names sources).violation = none) :
    (validateSources true names sources).violation = sources.findSome? Source.ruleViolation? := by
  induction sources generalizing names with
  | nil => rfl
  | cons s rest ih =>
      rw [validateSources] at h ⊢
      cases hlenient : s.violation? false names with
      | some v => simp [hlenient] at h
      | none =>
          simp only [hlenient] at h
          rw [Source.violation?_true_of_lenient hlenient, List.findSome?_cons]
          cases s.ruleViolation? with
          | some v => rfl
          | none => exact ih h

theorem findSome?_ruleViolation? (sources : List Source) :
    sources.findSome? Source.ruleViolation? =
      (sources.find? fun s => !s.problems.isEmpty).map fun s =>
        .malformedRule s.name s.problems := by
  induction sources with
  | nil => rfl
  | cons s rest ih =>
      by_cases hproblems : s.problems = []
      · simp [Source.ruleViolation?, hproblems, ih]
      · simp [Source.ruleViolation?, hproblems]

namespace Settings

/-! ## Settings -/

/-- Settings whose rules are judged strictly or not. -/
def judged (strict : Bool) (s : Settings) : Settings :=
  s.override { strictRules := some strict }

theorem validate_judged (strict : Bool) (s : Settings) :
    (s.judged strict).validate =
      match s.sectionViolation? with
      | some v => { violation := some v }
      | none =>
        if s.sources.isEmpty then { violation := some .noSources }
        else validateSources strict [] s.sources := rfl

/-- Strict validation is lenient validation, hardened, whatever else is wrong. -/
theorem validate_judged_true (s : Settings) :
    (s.judged true).validate = (s.judged false).validate.hardened := by
  rw [validate_judged, validate_judged, validateSources_true]
  cases s.sectionViolation? with
  | some v => rfl
  | none =>
      by_cases hempty : s.sources.isEmpty = true
      · simp [hempty, Validation.hardened]
      · simp [hempty]

/-- If nothing is wrong with settings, their sources have been gone through. -/
theorem validate_judged_of_none {strict : Bool} {s : Settings}
    (h : (s.judged strict).validate.violation = none) (other : Bool) :
    (s.judged other).validate = validateSources other [] s.sources := by
  rw [validate_judged] at h ⊢
  cases hsection : s.sectionViolation? with
  | some v => simp [hsection] at h
  | none =>
      by_cases hempty : s.sources.isEmpty = true
      · simp [hsection, hempty] at h
      · simp [hempty]

/-- Strict validation succeeds just if lenient validation succeeds and has no warnings, and it has
none itself. If lenient validation succeeds, its warnings are the problems of the rules of all
sources, source by source and in the order in which a rule has them. If there are any, the violation
that strict validation finds is about the first source that has some, and about all that this source
has; its message says so. -/
theorem strict_iff_silent (s : Settings) :
    ((s.judged true).validate.violation = none ↔
      (s.judged false).validate.violation = none ∧ (s.judged false).validate.warnings = []) ∧
      ((s.judged true).validate.violation = none → (s.judged true).validate.warnings = []) ∧
      ((s.judged false).validate.violation = none →
        (s.judged false).validate.warnings =
            s.sources.flatMap (fun source => source.problems.map fun p => ⟨source.name, p⟩) ∧
          ((s.judged false).validate.warnings ≠ [] →
            ∃ source v, (s.sources.find? fun r => !r.problems.isEmpty) = some source ∧
              (s.judged true).validate.violation = some v ∧
              v = .malformedRule source.name source.problems ∧
              v.message = "Validation error: Source '" ++ source.name ++
                "' has malformed detection rules: " ++
                "; ".intercalate (source.problems.map Problem.message))) := by
  have hiff : (s.judged true).validate.violation = none ↔
      (s.judged false).validate.violation = none ∧ (s.judged false).validate.warnings = [] := by
    rw [validate_judged_true, Validation.violation_hardened_eq_none_iff]
  refine ⟨hiff, ?_, ?_⟩
  · intro hstrict
    have hsilent := (hiff.1 hstrict).2
    rw [validate_judged_true, Validation.hardened]
    simp [hsilent]
  · intro hlenient
    have hsources : (s.judged false).validate = validateSources false [] s.sources :=
      validate_judged_of_none hlenient false
    have hstrict : (s.judged true).validate = validateSources true [] s.sources :=
      validate_judged_of_none hlenient true
    rw [hsources] at hlenient ⊢
    refine ⟨warnings_validateSources hlenient, fun hne => ?_⟩
    have hviolation : (s.judged true).validate.violation =
        (s.sources.find? fun r => !r.problems.isEmpty).map fun r =>
          .malformedRule r.name r.problems := by
      rw [hstrict, violation_validateSources_true hlenient, findSome?_ruleViolation?]
    cases hfind : s.sources.find? fun r => !r.problems.isEmpty with
    | none =>
        -- without a source that has problems there would be no warnings
        rw [hfind, Option.map_none] at hviolation
        rw [← hsources] at hne
        exact absurd (hiff.1 hviolation).2 hne
    | some source =>
        rw [hfind, Option.map_some] at hviolation
        exact ⟨source, _, rfl, hviolation, rfl, Violation.message_malformedRule _ _⟩

/-- Settings with one source that has a good rule and two that have malformed ones. -/
def stalls : Settings where
  identity := { name := "scout", version := "1", url := "http://[::1]/", email := "a@b.c" }
  sources := [
    { name := "tea", rootUrl := "http://[::1]/", rule := some (.oneOf []) },
    { name := "ink", rootUrl := "http://[::1]/ink"
      rule := some (.oneOf [.malformed .noType, .malformed .noCondition]) },
    { name := "pen", rootUrl := "http://[::1]/pen"
      rule := some (.malformed .alternativesNotList) }]

/-- Both malformed rules are warned about, and the first of them is refused. -/
theorem strict_iff_silent_stalls :
    (stalls.judged false).validate.violation = none ∧
      (stalls.judged false).validate.warnings =
        [⟨"ink", ⟨[.alternative 0], .noType⟩⟩, ⟨"ink", ⟨[.alternative 1], .noCondition⟩⟩,
          ⟨"pen", ⟨[], .alternativesNotList⟩⟩] ∧
      (stalls.judged true).validate.violation ≠ none ∧
      (stalls.judged true).validate.violation.map Violation.message =
        some ("Validation error: Source 'ink' has malformed detection rules: " ++
          "rule.or[0]: predicate is missing 'type'; " ++
          "rule.or[1]: rule has neither 'or' nor 'condition'") := by
  have hsome : (stalls.judged false).validate.violation.isNone = true := by decide +kernel
  have hlenient := Option.isNone_iff_eq_none.1 hsome
  obtain ⟨hiff, -, hwarned⟩ := strict_iff_silent stalls
  obtain ⟨hwarnings, hrefused⟩ := hwarned hlenient
  have hne : (stalls.judged false).validate.warnings ≠ [] := by
    rw [hwarnings]
    exact List.cons_ne_nil _ _
  obtain ⟨source, v, hfind, hviolation, -, hmessage⟩ := hrefused hne
  refine ⟨hlenient, hwarnings, fun hnone => hne (hiff.1 hnone).2, ?_⟩
  obtain rfl := Option.some.inj hfind
  rw [hviolation, Option.map_some, hmessage]
  decide +kernel

end Settings

end Prospector
