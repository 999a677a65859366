import Prospector.Proofs.Settings.Strictness

/-!
# Settings validated again

When some of the settings have been replaced by options, only a part of them is validated again: the
pace, the path of the results, and the rules if they are judged strictly now. The identity and what
else is asked of sources are left out, since options cannot touch them. If the settings were valid
before, this is as good as validating all of them. No warning comes up a second time.

## Main definitions

* `Settings.IsRevision` : settings that differ in nothing but what options replace.
* `Settings.revalidate` : the part of validation that is made again.

## Main results

* `Settings.isRevision_iff` : revisions are what overriding makes.
* `Settings.revalidate_eq` : the part that is made again, as a single test.
* `Settings.revalidates` : on a revision of valid settings it comes to what validation comes to.
-/

namespace Prospector

/-- Judges the rules of sources one by one, without a warning. -/
def revalidateSources : List Source → Validation
  | [] => {}
  | s :: rest =>
    match s.ruleViolation? with
    | some v => { violation := some v }
    | none => revalidateSources rest

theorem revalidateSources_eq (sources : List Source) :
    revalidateSources sources =
      { warnings := [], violation := sources.findSome? Source.ruleViolation? } := by
  induction sources with
  | nil => rfl
  | cons s rest ih =>
      rw [revalidateSources, List.findSome?_cons]
      cases s.ruleViolation? with
      | some v => rfl
      | none => exact ih

/-- A source with nothing wrong has nothing wrong if rules are not judged. -/
theorem Source.Valid.lenient {strict : Bool} {s : Source} (h : s.Valid strict) : s.Valid false where
  name := h.name
  rootUrl := h.rootUrl
  rule := h.rule
  wellFormed := nofun

namespace Settings

/-- Settings differ from others in nothing but the bounds, the number of workers, the timeout, the
strictness of rules and the path of the results. -/
structure IsRevision (t s : Settings) : Prop where
  delay : t.pace.delayMilliseconds = s.pace.delayMilliseconds
  identity : t.identity = s.identity
  sources : t.sources = s.sources

/-- Revisions are what overriding makes. -/
theorem isRevision_iff {t s : Settings} : t.IsRevision s ↔ ∃ o, t = s.override o := by
  constructor
  · intro h
    refine ⟨{
      maxPages := some t.pace.maxPages
      maxDepth := some t.pace.maxDepth
      maxWorkers := some t.pace.maxWorkers
      timeoutSeconds := some t.pace.timeoutSeconds
      strictRules := some t.pace.strictRules
      resultsPath := some t.resultsPath }, ?_⟩
    simp [override, ← h.delay, ← h.identity, ← h.sources]
  · rintro ⟨o, rfl⟩
    exact ⟨rfl, rfl, rfl⟩

/-- Validates again what options can make invalid. -/
def revalidate (s : Settings) : Validation :=
  match s.pace.violation? with
  | some v => { violation := some v }
  | none =>
    match resultsPathViolation? s.resultsPath with
    | some v => { violation := some v }
    | none => if s.pace.strictRules then revalidateSources s.sources else {}

/-- What is validated again comes to the violation that replacing settings brought about, and to no
warning. -/
theorem revalidate_eq (s : Settings) :
    s.revalidate = { warnings := [], violation := s.overrideViolation? } := by
  unfold revalidate overrideViolation?
  cases s.pace.violation? with
  | some v => rfl
  | none =>
      cases resultsPathViolation? s.resultsPath with
      | some v => rfl
      | none =>
          by_cases hstrict : s.pace.strictRules = true
          · simp [hstrict, revalidateSources_eq]
          · simp [hstrict]

theorem sectionViolation?_of_identity {s : Settings} (h : s.identity.Valid) :
    s.sectionViolation? = (s.pace.violation? <|> resultsPathViolation? s.resultsPath) := by
  rw [sectionViolation?, (Identity.violation?_eq_none_iff _).2 h]
  cases s.pace.violation? <;> rfl

/-- Validation of settings whose identity and sources are in order, but for the rules of these. -/
theorem violation_validate_of_valid {s : Settings} (hidentity : s.identity.Valid)
    (hne : s.sources ≠ []) (hnames : (s.sources.map Source.name).Nodup)
    (hsources : ∀ source ∈ s.sources, source.Valid false) :
    s.validate.violation = s.overrideViolation? := by
  have hempty : ¬s.sources.isEmpty = true := by simpa using hne
  have hlenient : (validateSources false [] s.sources).violation = none :=
    (violation_validateSources_eq_none_iff false s.sources []).2
      ⟨fun source hsource => ⟨List.not_mem_nil, hsources source hsource⟩, hnames⟩
  rw [validate, overrideViolation?, sectionViolation?_of_identity hidentity]
  cases s.pace.violation? with
  | some v => rfl
  | none =>
      cases resultsPathViolation? s.resultsPath with
      | some v => rfl
      | none =>
          by_cases hstrict : s.pace.strictRules = true
          · simp [hempty, hstrict, violation_validateSources_true hlenient]
          · simp [hempty, hstrict, hlenient]

/-- What is validated again never comes to a warning. On a revision of settings that validation
found nothing wrong with, it comes to what validation of all settings comes to: both to nothing, or
both to the same violation, and so to the same message. It is the violation that a command with
these settings stops at. -/
theorem revalidates (t : Settings) :
    t.revalidate.warnings = [] ∧
      ∀ s : Settings, s.validate.violation = none → t.IsRevision s →
        t.revalidate.violation = t.validate.violation ∧
          t.overrideViolation? = t.validate.violation := by
  rw [revalidate_eq]
  refine ⟨rfl, fun s hs ht => ?_⟩
  have hvalid : s.Valid := (violation_validate_eq_none_iff s).1 hs
  have hidentity : t.identity.Valid := by
    rw [ht.identity]
    exact hvalid.identity
  have hne : t.sources ≠ [] := by
    rw [ht.sources]
    exact hvalid.sources_ne_nil
  have hnames : (t.sources.map Source.name).Nodup := by
    rw [ht.sources]
    exact hvalid.names
  have hsources : ∀ source ∈ t.sources, source.Valid false := by
    intro source hsource
    rw [ht.sources] at hsource
    exact (hvalid.sources source hsource).lenient
  have hsame := violation_validate_of_valid hidentity hne hnames hsources
  exact ⟨hsame.symm, hsame.symm⟩

/-- Once rules are judged strictly, the stall with the first malformed rule is refused, and the
problems are not warned about again. If there are no workers either, they are what is wrong. -/
theorem revalidates_stalls :
    let strict := stalls.override { strictRules := some true, resultsPath := some "out.json" }
    let idle := stalls.override { strictRules := some true, maxWorkers := some 0 }
    stalls.validate.violation = none ∧ strict.IsRevision stalls ∧ idle.IsRevision stalls ∧
      strict.revalidate.warnings = [] ∧
      strict.revalidate.violation = strict.validate.violation ∧
      strict.validate.violation.map Violation.message =
        some ("Validation error: Source 'ink' has malformed detection rules: " ++
          "rule.or[0]: predicate is missing 'type'; " ++
          "rule.or[1]: rule has neither 'or' nor 'condition'") ∧
      idle.revalidate.violation.map Violation.message =
        some "Validation error: max_workers must be between 1 and 256, got 0" := by
  intro strict idle
  have hsome : stalls.validate.violation.isNone = true := by decide +kernel
  have hvalid := Option.isNone_iff_eq_none.1 hsome
  have hstrict : strict.IsRevision stalls := isRevision_iff.2 ⟨_, rfl⟩
  have hidle : idle.IsRevision stalls := isRevision_iff.2 ⟨_, rfl⟩
  obtain ⟨hsilent, hstrictly⟩ := revalidates strict
  obtain ⟨hsame, hstops⟩ := hstrictly stalls hvalid hstrict
  obtain ⟨hsame', hstops'⟩ := (revalidates idle).2 stalls hvalid hidle
  refine ⟨hvalid, hstrict, hidle, hsilent, hsame, ?_, ?_⟩
  · rw [← hstops]
    decide +kernel
  · rw [hsame', ← hstops']
    decide +kernel

end Settings

end Prospector
