import Mathlib.Data.List.Nodup
import Mathlib.Data.Option.Basic
import Prospector.Settings.Validation

/-!
# Valid settings

Validation stops at the first violation. Settings without one satisfy everything that the checks on
the way ask for, so validity can be stated of the settings as a whole: of each section, and of each
source apart from the others but for its name. Replaced settings are not validated again; the checks
that are made instead are those that replacing settings can make fail.

## Main definitions

* `Pace.Valid`, `Identity.Valid`, `Source.Valid`, `Settings.Valid` : what is asked for.

## Main results

* `Settings.violation_validate_eq_none_iff` : validation finds no violation just in valid settings.
* `Settings.Valid.override` : valid settings stay valid if replacing some brings no violation about.
* `Settings.valid_iff_lenient` : what strict settings ask for in addition.
-/

namespace Prospector

/-! ## Sections -/

/-- Bounds that a crawl can keep. -/
structure Pace.Valid (p : Pace) : Prop where
  one_le_workers : 1 ≤ p.maxWorkers
  workers_le : p.maxWorkers ≤ workerLimit
  one_le_timeout : 1 ≤ p.timeoutSeconds

theorem Pace.violation?_eq_none_iff (p : Pace) : p.violation? = none ↔ p.Valid := by
  unfold violation?
  simp only [Bool.or_eq_true, decide_eq_true_eq]
  split
  · next hworkers =>
    refine iff_of_false nofun fun h => ?_
    have hlow := h.one_le_workers
    have hhigh := h.workers_le
    omega
  · next hworkers =>
    split
    · next htimeout => exact iff_of_false nofun fun h => absurd h.one_le_timeout (by omega)
    · next htimeout => exact iff_of_true rfl ⟨by omega, by omega, by omega⟩

/-- An identity that one can be reached under. -/
structure Identity.Valid (i : Identity) : Prop where
  name_ne_empty : i.name ≠ ""
  name : i.name.toList.all (fun c => Text.isAlphanumeric c || c == '-') = true
  url : ∃ u, Url.ofText i.url = .ok u
  email : ∃ user domain, Text.splitAtChar '@' i.email.toList = [user, domain] ∧ user ≠ [] ∧
    '.' ∈ domain

theorem emailViolation?_eq_none_iff (email : String) :
    emailViolation? email = none ↔
      ∃ user domain, Text.splitAtChar '@' email.toList = [user, domain] ∧ user ≠ [] ∧
        '.' ∈ domain := by
  unfold emailViolation?
  split
  · next hempty =>
    rw [String.isEmpty_iff] at hempty
    subst hempty
    refine iff_of_false nofun ?_
    rintro ⟨user, domain, hsplit, -⟩
    exact nomatch hsplit
  · split
    · next user domain hsplit =>
      rw [hsplit]
      have hdot : '.' ∈ domain → domain ≠ [] := List.ne_nil_of_mem
      split
      · next hmissing =>
        refine iff_of_false nofun ?_
        rintro ⟨user', domain', hsame, huser, hmem⟩
        simp only [List.cons.injEq, and_true] at hsame
        obtain ⟨rfl, rfl⟩ := hsame
        simp [huser, hdot hmem] at hmissing
      · next hparts =>
        simp only [Bool.or_eq_true, List.isEmpty_iff, not_or] at hparts
        split
        · next hcontains =>
          exact iff_of_true rfl ⟨user, domain, rfl, hparts.1, List.contains_iff_mem.1 hcontains⟩
        · next hcontains =>
          refine iff_of_false nofun ?_
          rintro ⟨user', domain', hsame, -, hmem⟩
          simp only [List.cons.injEq, and_true] at hsame
          obtain ⟨rfl, rfl⟩ := hsame
          exact hcontains (List.contains_iff_mem.2 hmem)
    · next hother =>
      refine iff_of_false nofun ?_
      rintro ⟨user, domain, hsplit, -⟩
      exact hother user domain hsplit

theorem Identity.violation?_eq_none_iff (i : Identity) : i.violation? = none ↔ i.Valid := by
  unfold violation?
  split
  · next hempty => exact iff_of_false nofun fun h => h.name_ne_empty (String.isEmpty_iff.1 hempty)
  · next hempty =>
    split
    · next hname => exact iff_of_false nofun fun h => by simp [h.name] at hname
    · next hname =>
      split
      · next fault hurl =>
        refine iff_of_false nofun fun h => ?_
        obtain ⟨u, hu⟩ := h.url
        exact nomatch hurl.symm.trans hu
      · next u hurl =>
        rw [emailViolation?_eq_none_iff]
        constructor
        · intro hemail
          rw [Bool.not_eq_true', Bool.not_eq_false] at hname
          exact ⟨fun h => hempty (String.isEmpty_iff.2 h), hname, ⟨u, hurl⟩, hemail⟩
        · exact fun h => h.email

theorem resultsPathViolation?_eq_none_iff (path : String) :
    resultsPathViolation? path = none ↔ path ≠ "" := by
  simp [resultsPathViolation?]

/-! ## Sources -/

/-- A source with nothing wrong that does not depend on other sources. -/
structure Source.Valid (strict : Bool) (s : Source) : Prop where
  name : Text.trim s.name ≠ ""
  rootUrl : ∃ u, Url.ofText s.rootUrl = .ok u ∧ u.isWeb = true ∧ u.hasHost = true
  rule : s.rule.isSome = true
  wellFormed : strict = true → s.problems = []

theorem rootUrlViolation?_eq_none_iff (url : String) :
    rootUrlViolation? url = none ↔
      ∃ u, Url.ofText url = .ok u ∧ u.isWeb = true ∧ u.hasHost = true := by
  unfold rootUrlViolation?
  cases Url.ofText url with
  | error fault => simp
  | ok u => cases hweb : u.isWeb <;> cases hhost : u.hasHost <;> simp [hweb, hhost]

theorem Source.ruleViolation?_eq_none_iff (s : Source) :
    s.ruleViolation? = none ↔ s.problems = [] := by
  simp [ruleViolation?]

theorem Source.violation?_eq_none_iff (strict : Bool) (names : List String) (s : Source) :
    s.violation? strict names = none ↔ s.name ∉ names ∧ s.Valid strict := by
  unfold violation?
  split
  · next hname => exact iff_of_false nofun fun h => h.2.name (String.isEmpty_iff.1 hname)
  · next hname =>
    split
    · next hold => exact iff_of_false nofun fun h => h.1 (List.contains_iff_mem.1 hold)
    · next hnew =>
      split
      · next v hv =>
        refine iff_of_false nofun fun h => ?_
        exact nomatch hv.symm.trans ((rootUrlViolation?_eq_none_iff s.rootUrl).2 h.2.rootUrl)
      · next hurl =>
        rw [rootUrlViolation?_eq_none_iff] at hurl
        split
        · next hrule =>
          refine iff_of_false nofun fun h => ?_
          exact Option.isSome_iff_ne_none.1 h.2.rule (Option.isNone_iff_eq_none.1 hrule)
        · next hrule =>
          rw [Bool.not_eq_true, Option.isNone_eq_false_iff] at hrule
          have hparts : s.name ∉ names ∧ Text.trim s.name ≠ "" :=
            ⟨fun h => hnew (List.contains_iff_mem.2 h), fun h => hname (String.isEmpty_iff.2 h)⟩
          split
          · next hstrict =>
            rw [ruleViolation?_eq_none_iff]
            exact ⟨fun h => ⟨hparts.1, hparts.2, hurl, hrule, fun _ => h⟩,
              fun h => h.2.wellFormed hstrict⟩
          · next hlenient =>
            exact iff_of_true rfl
              ⟨hparts.1, hparts.2, hurl, hrule, fun h => absurd h hlenient⟩

/-- In a source with nothing wrong but for its rule the problems of that are what is wrong. -/
theorem Source.violation?_true_of_lenient {names : List String} {s : Source}
    (h : s.violation? false names = none) : s.violation? true names = s.ruleViolation? := by
  unfold violation? at h ⊢
  split at h
  · cases h
  · next hname =>
    split at h
    · cases h
    · next hnew =>
      split at h
      · cases h
      · next hurl =>
        split at h
        · cases h
        · next hrule => rw [if_neg hname, if_neg hnew, if_neg hrule, if_pos rfl]

/-- Sources have no violation just if each of them is valid and their names are new and differ. -/
theorem violation_validateSources_eq_none_iff (strict : Bool) (sources : List Source)
    (names : List String) :
    (validateSources strict names sources).violation = none ↔
      (∀ s ∈ sources, s.name ∉ names ∧ s.Valid strict) ∧ (sources.map Source.name).Nodup := by
  induction sources generalizing names with
  | nil => simp [validateSources]
  | cons s rest ih =>
      rw [List.forall_mem_cons, List.map_cons, List.nodup_cons, validateSources]
      split
      · next v hv =>
        have hinvalid : ¬(s.name ∉ names ∧ s.Valid strict) := by
          rw [← Source.violation?_eq_none_iff, hv]
          exact nofun
        simp [hinvalid]
      · next hv =>
        -- the name of `s` is one of those that the rest must not have
        rw [Source.violation?_eq_none_iff] at hv
        rw [ih]
        constructor
        · rintro ⟨hrest, hnodup⟩
          refine ⟨⟨hv, fun r hr => ?_⟩, fun hmem => ?_, hnodup⟩
          · exact ⟨fun h => (hrest r hr).1 (List.mem_cons_of_mem _ h), (hrest r hr).2⟩
          · obtain ⟨r, hr, hsame⟩ := List.mem_map.1 hmem
            exact (hrest r hr).1 (hsame ▸ List.mem_cons_self)
        · rintro ⟨⟨-, hrest⟩, hfresh, hnodup⟩
          refine ⟨fun r hr => ⟨fun h => ?_, (hrest r hr).2⟩, hnodup⟩
          rcases List.mem_cons.1 h with hsame | hmem
          · exact hfresh (List.mem_map.2 ⟨r, hr, hsame⟩)
          · exact (hrest r hr).1 hmem

namespace Settings

/-! ## Settings -/

/-- Settings with nothing wrong. -/
structure Valid (s : Settings) : Prop where
  pace : s.pace.Valid
  identity : s.identity.Valid
  resultsPath : s.resultsPath ≠ ""
  sources_ne_nil : s.sources ≠ []
  names : (s.sources.map Source.name).Nodup
  sources : ∀ source ∈ s.sources, source.Valid s.pace.strictRules

theorem sectionViolation?_eq_none_iff (s : Settings) :
    s.sectionViolation? = none ↔ s.pace.Valid ∧ s.identity.Valid ∧ s.resultsPath ≠ "" := by
  rw [sectionViolation?, Option.orElse_eq_none, Option.orElse_eq_none,
    Pace.violation?_eq_none_iff, Identity.violation?_eq_none_iff, resultsPathViolation?_eq_none_iff]

/-- Validation finds no violation just in valid settings. -/
theorem violation_validate_eq_none_iff (s : Settings) :
    s.validate.violation = none ↔ s.Valid := by
  unfold validate
  split
  · next v hv =>
    refine iff_of_false nofun fun h => ?_
    have hnone := s.sectionViolation?_eq_none_iff.2 ⟨h.pace, h.identity, h.resultsPath⟩
    exact nomatch hv.symm.trans hnone
  · next hsection =>
    obtain ⟨hpace, hidentity, hpath⟩ := s.sectionViolation?_eq_none_iff.1 hsection
    split
    · next hempty =>
      exact iff_of_false nofun fun h => h.sources_ne_nil (List.isEmpty_iff.1 hempty)
    · next hsome =>
      rw [violation_validateSources_eq_none_iff]
      constructor
      · rintro ⟨hsources, hnames⟩
        exact ⟨hpace, hidentity, hpath, fun h => hsome (List.isEmpty_iff.2 h), hnames,
          fun source h => (hsources source h).2⟩
      · intro h
        exact ⟨fun source hsource => ⟨List.not_mem_nil, h.sources source hsource⟩, h.names⟩

/-- Strict settings are valid if they are so when they are not strict and no rule has problems. -/
theorem valid_iff_lenient {s : Settings} (h : s.pace.strictRules = true) :
    s.Valid ↔ (s.override { strictRules := some false }).Valid ∧
      ∀ source ∈ s.sources, source.problems = [] := by
  constructor
  · intro hvalid
    have hpace : ({ s.pace with strictRules := false } : Pace).Valid :=
      ⟨hvalid.pace.one_le_workers, hvalid.pace.workers_le, hvalid.pace.one_le_timeout⟩
    refine ⟨⟨hpace, hvalid.identity, hvalid.resultsPath, hvalid.sources_ne_nil, hvalid.names,
      fun source hsource => ?_⟩, fun source hsource => ?_⟩
    · have hsourceValid := hvalid.sources source hsource
      exact ⟨hsourceValid.name, hsourceValid.rootUrl, hsourceValid.rule, nofun⟩
    · exact (hvalid.sources source hsource).wellFormed h
  · rintro ⟨hlenient, hproblems⟩
    have hpace : s.pace.Valid :=
      ⟨hlenient.pace.one_le_workers, hlenient.pace.workers_le, hlenient.pace.one_le_timeout⟩
    refine ⟨hpace, hlenient.identity, hlenient.resultsPath, hlenient.sources_ne_nil, hlenient.names,
      fun source hsource => ?_⟩
    have hsourceValid := hlenient.sources source hsource
    exact ⟨hsourceValid.name, hsourceValid.rootUrl, hsourceValid.rule,
      fun _ => hproblems source hsource⟩

/-- Valid settings stay valid if replacing some of them brings no violation about. -/
theorem Valid.override {s : Settings} (h : s.Valid) (o : Overrides)
    (ho : (s.override o).overrideViolation? = none) : (s.override o).Valid := by
  rw [overrideViolation?, Option.orElse_eq_none, Option.orElse_eq_none,
    Pace.violation?_eq_none_iff, resultsPathViolation?_eq_none_iff] at ho
  obtain ⟨hpace, hpath, hrules⟩ := ho
  refine ⟨hpace, h.identity, hpath, h.sources_ne_nil, h.names, fun source hsource => ?_⟩
  have hvalid := h.sources source hsource
  refine ⟨hvalid.name, hvalid.rootUrl, hvalid.rule, fun hstrict => ?_⟩
  rw [if_pos hstrict, List.findSome?_eq_none_iff] at hrules
  exact source.ruleViolation?_eq_none_iff.1 (hrules source hsource)

end Settings

end Prospector
