import Prospector.Proofs.Json.Members
import Prospector.Proofs.Settings.Validation
import Prospector.Proofs.Text.Parts
import Prospector.Rule.Reader

/-!
# The language of rules

Every JSON value reads as a rule, but only those that are written as rules read as one without
problems. Which these are is said here by the keys of objects and the kinds of values only. Where an
object has several keys that name groups the first one counts and the others are passed over, and a
member that may be left out may as well be `null`, but for an extraction, which has to be an object
once it is there.

## Main definitions

* `Json.WritesCondition`, `Json.WritesRule` : values that are written as conditions and as rules.

## Main results

* `Condition.problems_ofJson_eq_nil_iff`, `Rule.problems_ofJson_eq_nil_iff` : values without
  problems.
* `Rule.accepted_iff_written` : strict settings accept just the rules that are written as such.
-/

namespace Prospector

/-! ## The language -/

namespace Json

/-- A member that is left out or `null`, or else is a string. -/
inductive IsOptionalText : Option Json → Prop
  | absent : IsOptionalText none
  | null : IsOptionalText (some .null)
  | string (s : String) : IsOptionalText (some (.string s))

/-- The members of an object that is written as a check of the elements of a tag. -/
structure WritesCheck (members : Members) : Prop where
  tag : ∃ tag, member? "tag" members = some (.string tag) ∧ tag ≠ ""
  text : IsOptionalText (member? "text_contains" members) ∨
    ∃ b, member? "text_contains" members = some (.bool b)
  attr : IsOptionalText (member? "attribute" members)
  value : IsOptionalText (member? "value" members)
  content : IsOptionalText (member? "content" members)

/-- A value that is written as a condition. -/
inductive WritesCondition : Json → Prop
  | list {items : List Json} : (∀ v ∈ items, WritesCondition v) → WritesCondition (.array items)
  | all {members : Members} {items : List Json} : member? "and" members = some (.array items) →
      (∀ v ∈ items, WritesCondition v) → WritesCondition (.object members)
  | any {members : Members} {items : List Json} : member? "and" members = none →
      member? "or" members = some (.array items) → (∀ v ∈ items, WritesCondition v) →
      WritesCondition (.object members)
  | check {members : Members} : member? "and" members = none → member? "or" members = none →
      WritesCheck members → WritesCondition (.object members)

/-- A value that is written as an extraction. -/
inductive WritesExtraction : Json → Prop
  | object {members : Members} {tag : String} : member? "from_tag" members = some (.string tag) →
      tag ≠ "" → WritesExtraction (.object members)

/-- A value that is written as a rule. -/
inductive WritesRule : Json → Prop
  | oneOf {members : Members} {items : List Json} : member? "or" members = some (.array items) →
      (∀ v ∈ items, WritesRule v) → WritesRule (.object members)
  | predicate {members : Members} {kind : String} {condition : Json} :
      member? "or" members = none → member? "type" members = some (.string kind) →
      member? "condition" members = some condition → WritesCondition condition →
      (∀ v, member? "extract" members = some v → WritesExtraction v) →
      WritesRule (.object members)

/-! ## Parts of a value -/

theorem sizeOf_lt_of_mem_items {v : Json} {items : List Json} (h : v ∈ items) :
    sizeOf v < sizeOf (Json.array items) := by
  have hlt := List.sizeOf_lt_of_mem h
  simp only [Json.array.sizeOf_spec]
  omega

theorem sizeOf_lt_of_member? {key : String} {v : Json} {members : Members}
    (h : member? key members = some v) : sizeOf v < sizeOf (Json.object members) := by
  have hlt := List.sizeOf_lt_of_mem (mem_of_member? h)
  simp only [Prod.mk.sizeOf_spec] at hlt
  simp only [Json.object.sizeOf_spec]
  omega

end Json

/-! ## Checks -/

theorem exists_optionalString_iff (key : String) (members : Members) :
    (∃ text, optionalString key members = .ok text) ↔
      Json.IsOptionalText (Json.member? key members) := by
  unfold optionalString
  generalize Json.member? key members = found
  constructor
  · rintro ⟨text, htext⟩
    cases found with
    | none => exact .absent
    | some v =>
        cases v with
        | null => exact .null
        | string s => exact .string s
        | bool _ | number _ | array _ | object _ => cases htext
  · intro h
    cases h with
    | absent | null | string _ => exact ⟨_, rfl⟩

namespace TagCheck

theorem exists_tagOf_iff (members : Members) :
    (∃ tag, tagOf members = .ok tag) ↔
      ∃ tag, Json.member? "tag" members = some (.string tag) ∧ tag ≠ "" := by
  unfold tagOf
  constructor
  · rintro ⟨tag, htag⟩
    split at htag
    · next s hs =>
      split at htag
      · cases htag
      · next hne => exact ⟨s, hs, fun h => hne (String.isEmpty_iff.2 h)⟩
    · cases htag
    · cases htag
  · rintro ⟨tag, htag, hne⟩
    refine ⟨tag, ?_⟩
    rw [htag]
    exact if_neg fun h => hne (String.isEmpty_iff.1 h)

theorem exists_textOf_iff (members : Members) :
    (∃ text, textOf members = .ok text) ↔
      Json.IsOptionalText (Json.member? "text_contains" members) ∨
        ∃ b, Json.member? "text_contains" members = some (.bool b) := by
  unfold textOf
  generalize Json.member? "text_contains" members = found
  constructor
  · rintro ⟨text, htext⟩
    cases found with
    | none => exact .inl .absent
    | some v =>
        cases v with
        | null => exact .inl .null
        | string s => exact .inl (.string s)
        | bool b => exact .inr ⟨b, rfl⟩
        | number _ | array _ | object _ => cases htext
  · rintro (h | ⟨b, rfl⟩)
    · cases h with
      | absent | null | string _ => exact ⟨_, rfl⟩
    · exact ⟨_, rfl⟩

theorem exists_ofMembers_iff (members : Members) :
    (∃ check, ofMembers members = .ok check) ↔ Json.WritesCheck members := by
  constructor
  · rintro ⟨check, hcheck⟩
    obtain ⟨tag, htag, hcheck⟩ := bind_eq_ok.1 hcheck
    obtain ⟨text, htext, hcheck⟩ := bind_eq_ok.1 hcheck
    obtain ⟨attr, hattr, hcheck⟩ := bind_eq_ok.1 hcheck
    obtain ⟨value, hvalue, hcheck⟩ := bind_eq_ok.1 hcheck
    obtain ⟨content, hcontent, -⟩ := bind_eq_ok.1 hcheck
    exact
      { tag := (exists_tagOf_iff members).1 ⟨tag, htag⟩
        text := (exists_textOf_iff members).1 ⟨text, htext⟩
        attr := (exists_optionalString_iff _ members).1 ⟨attr, hattr⟩
        value := (exists_optionalString_iff _ members).1 ⟨value, hvalue⟩
        content := (exists_optionalString_iff _ members).1 ⟨content, hcontent⟩ }
  · intro h
    obtain ⟨tag, htag⟩ := (exists_tagOf_iff members).2 h.tag
    obtain ⟨text, htext⟩ := (exists_textOf_iff members).2 h.text
    obtain ⟨attr, hattr⟩ := (exists_optionalString_iff _ members).2 h.attr
    obtain ⟨value, hvalue⟩ := (exists_optionalString_iff _ members).2 h.value
    obtain ⟨content, hcontent⟩ := (exists_optionalString_iff _ members).2 h.content
    refine ⟨_, bind_eq_ok.2 ⟨tag, htag, bind_eq_ok.2 ⟨text, htext, bind_eq_ok.2 ⟨attr, hattr,
      bind_eq_ok.2 ⟨value, hvalue, bind_eq_ok.2 ⟨content, hcontent, rfl⟩⟩⟩⟩⟩⟩

end TagCheck

/-! ## Conditions -/

theorem conditionList_eq (items : List Json) :
    conditionList items = items.map Condition.ofJson := by
  induction items with
  | nil => rfl
  | cons item items ih => rw [conditionList, ih, List.map_cons]

theorem conditionGroup_eq (key : String) (members : Members) :
    conditionGroup key members = (Json.member? key members).map conditionItems := by
  induction members with
  | nil => rfl
  | cons m members ih =>
      rw [conditionGroup, Json.member?]
      by_cases h : m.1 = key
      · rw [if_pos h, if_pos h]
        rfl
      · rw [if_neg h, if_neg h]
        exact ih

theorem conditionProblems_eq_nil_iff (step : Nat → ClauseStep) (index : Nat)
    (conditions : List Condition) :
    conditionProblems step index conditions = [] ↔ ∀ c ∈ conditions, c.problems = [] := by
  induction conditions generalizing index with
  | nil => simp [conditionProblems]
  | cons c conditions ih => simp [conditionProblems, ih]

theorem conditionGroup_eq_none {key : String} {members : Members}
    (h : conditionGroup key members = none) : Json.member? key members = none := by
  rwa [conditionGroup_eq, Option.map_eq_none_iff] at h

theorem exists_items_of_conditionGroup {key : String} {members : Members}
    {conditions : List Condition} (h : conditionGroup key members = some (some conditions)) :
    ∃ items, Json.member? key members = some (.array items) ∧ conditions = conditionList items := by
  rw [conditionGroup_eq, Option.map_eq_some_iff] at h
  obtain ⟨v, hv, hitems⟩ := h
  cases v with
  | array items => exact ⟨items, hv, (Option.some.inj hitems).symm⟩
  | null | bool _ | number _ | string _ | object _ => cases hitems

namespace Condition

/-- A condition has no problems just if it is written as one. -/
theorem problems_ofJson_eq_nil_iff (v : Json) :
    (ofJson v).problems = [] ↔ v.WritesCondition := by
  -- the items of a group are smaller than `v`, whether the group is `v` or a member of it
  have hitems : ∀ (step : Nat → ClauseStep) (items : List Json),
      sizeOf (Json.array items) ≤ sizeOf v →
        (conditionProblems step 0 (conditionList items) = [] ↔
          ∀ u ∈ items, u.WritesCondition) := by
    intro step items hsize
    rw [conditionProblems_eq_nil_iff, conditionList_eq, List.forall_mem_map]
    exact forall₂_congr fun u hu => problems_ofJson_eq_nil_iff u
  constructor
  · intro h
    cases v with
    | array items => exact .list ((hitems _ items (Nat.le_refl _)).1 h)
    | object members =>
        unfold ofJson at h
        split at h
        · next conditions hand =>
          obtain ⟨items, hmember, rfl⟩ := exists_items_of_conditionGroup hand
          have hsize := Nat.le_of_lt (Json.sizeOf_lt_of_member? hmember)
          exact .all hmember ((hitems _ items hsize).1 h)
        · cases h
        · next hand =>
          have hnoAnd := conditionGroup_eq_none hand
          split at h
          · next conditions hor =>
            obtain ⟨items, hmember, rfl⟩ := exists_items_of_conditionGroup hor
            have hsize := Nat.le_of_lt (Json.sizeOf_lt_of_member? hmember)
            exact .any hnoAnd hmember ((hitems _ items hsize).1 h)
          · cases h
          · next hor =>
            split at h
            · next check hcheck =>
              exact .check hnoAnd (conditionGroup_eq_none hor)
                ((TagCheck.exists_ofMembers_iff members).1 ⟨check, hcheck⟩)
            · cases h
    | null | bool _ | number _ | string _ => cases h
  · intro h
    cases h with
    | @list items hall => exact (hitems _ items (Nat.le_refl _)).2 hall
    | @all members items hand hall =>
        rw [ofJson, conditionGroup_eq, hand]
        exact (hitems _ items (Nat.le_of_lt (Json.sizeOf_lt_of_member? hand))).2 hall
    | @any members items hand hor hall =>
        rw [ofJson, conditionGroup_eq, conditionGroup_eq, hand, hor]
        exact (hitems _ items (Nat.le_of_lt (Json.sizeOf_lt_of_member? hor))).2 hall
    | @check members hand hor hcheck =>
        obtain ⟨check, hok⟩ := (TagCheck.exists_ofMembers_iff members).2 hcheck
        rw [ofJson, conditionGroup_eq, conditionGroup_eq, hand, hor]
        simp only [Option.map_none, hok]
        rfl
termination_by sizeOf v
decreasing_by exact Nat.lt_of_lt_of_le (Json.sizeOf_lt_of_mem_items hu) hsize

end Condition

/-! ## Rules -/

theorem eq_of_stringOf_eq_some {key s : String} {members : Members}
    (h : stringOf key members = some s) : Json.member? key members = some (.string s) := by
  obtain ⟨v, hv, hs⟩ := Option.bind_eq_some_iff.1 h
  rw [hv, Json.eq_string_of_string? hs]

theorem Extraction.problems_ofJson_eq_nil_iff (v : Json) :
    (ofJson v).problems = [] ↔ v.WritesExtraction := by
  have hproblems : ∀ x : Extraction, x.problems = [] ↔ x.tag ≠ "" := by
    intro x
    simp [problems]
  rw [hproblems]
  constructor
  · intro h
    cases v with
    | object members =>
        cases htag : stringOf "from_tag" members with
        | none =>
            rw [ofJson, htag] at h
            exact absurd rfl h
        | some tag =>
            rw [ofJson, htag] at h
            exact .object (eq_of_stringOf_eq_some htag) h
    | null | bool _ | number _ | string _ | array _ => exact absurd rfl h
  · intro h
    cases h with
    | @object members tag htag hne =>
        rw [ofJson, stringOf, htag]
        exact hne

theorem ruleList_eq (items : List Json) : ruleList items = items.map Rule.ofJson := by
  induction items with
  | nil => rfl
  | cons item items ih => rw [ruleList, ih, List.map_cons]

theorem alternatives_eq (members : Members) :
    alternatives members = (Json.member? "or" members).map ruleItems := by
  induction members with
  | nil => rfl
  | cons m members ih =>
      rw [alternatives, Json.member?]
      by_cases h : m.1 = "or"
      · rw [if_pos h, if_pos h]
        rfl
      · rw [if_neg h, if_neg h]
        exact ih

theorem ruleProblems_eq_nil_iff (index : Nat) (rules : List Rule) :
    ruleProblems index rules = [] ↔ ∀ r ∈ rules, r.problems = [] := by
  induction rules generalizing index with
  | nil => simp [ruleProblems]
  | cons r rules ih => simp [ruleProblems, ih]

namespace Rule

/-- An object without alternatives has no problems just if it is written as a predicate. -/
theorem problems_ofPredicate_eq_nil_iff (members : Members) :
    (ofPredicate members).problems = [] ↔
      ∃ kind condition, Json.member? "type" members = some (.string kind) ∧
        Json.member? "condition" members = some condition ∧ condition.WritesCondition ∧
          ∀ v, Json.member? "extract" members = some v → v.WritesExtraction := by
  unfold ofPredicate
  constructor
  · intro h
    split at h
    · cases h
    · cases h
    · next condition kind hcondition hkind =>
      rw [problems, Predicate.problems, List.append_eq_nil_iff, List.map_eq_nil_iff,
        Condition.problems_ofJson_eq_nil_iff] at h
      refine ⟨kind, condition, hkind, hcondition, h.1, ?_⟩
      intro v hv
      rw [hv] at h
      rw [← Extraction.problems_ofJson_eq_nil_iff]
      exact List.map_eq_nil_iff.1 h.2
    · cases h
  · rintro ⟨kind, condition, hkind, hcondition, hwrites, hextract⟩
    rw [hcondition, hkind]
    show List.map _ _ ++ _ = []
    rw [(Condition.problems_ofJson_eq_nil_iff condition).2 hwrites]
    cases hv : Json.member? "extract" members with
    | none => rfl
    | some v =>
        show List.map _ (Extraction.ofJson v).problems = []
        rw [(Extraction.problems_ofJson_eq_nil_iff v).2 (hextract v hv)]
        rfl

/-- A rule has no problems just if it is written as one. -/
theorem problems_ofJson_eq_nil_iff (v : Json) : (ofJson v).problems = [] ↔ v.WritesRule := by
  have hitems : ∀ (members : Members) (items : List Json), v = .object members →
      Json.member? "or" members = some (.array items) →
        (ruleProblems 0 (ruleList items) = [] ↔ ∀ u ∈ items, u.WritesRule) := by
    intro members items hv hor
    rw [ruleProblems_eq_nil_iff, ruleList_eq, List.forall_mem_map]
    exact forall₂_congr fun u hu => problems_ofJson_eq_nil_iff u
  constructor
  · intro h
    cases v with
    | object members =>
        unfold ofJson at h
        rw [alternatives_eq] at h
        cases hor : Json.member? "or" members with
        | none =>
            rw [hor] at h
            obtain ⟨kind, condition, hkind, hcondition, hwrites, hextract⟩ :=
              (problems_ofPredicate_eq_nil_iff members).1 h
            exact .predicate hor hkind hcondition hwrites hextract
        | some w =>
            rw [hor] at h
            cases w with
            | array items => exact .oneOf hor ((hitems members items rfl hor).1 h)
            | null | bool _ | number _ | string _ | object _ => cases h
    | null | bool _ | number _ | string _ | array _ => cases h
  · intro h
    cases h with
    | @oneOf members items hor hall =>
        rw [ofJson, alternatives_eq, hor]
        exact (hitems members items rfl hor).2 hall
    | @predicate members kind condition hor hkind hcondition hwrites hextract =>
        rw [ofJson, alternatives_eq, hor]
        exact (problems_ofPredicate_eq_nil_iff members).2
          ⟨kind, condition, hkind, hcondition, hwrites, hextract⟩
termination_by sizeOf v
decreasing_by
  subst hv
  exact Nat.lt_trans (Json.sizeOf_lt_of_mem_items hu) (Json.sizeOf_lt_of_member? hor)

/-! ## Strict settings -/

/-- The JSON values that read as rules without problems are those of the language, and strict
settings accept just these: a source in which nothing else is wrong is refused, with all problems of
its rule, just if its rule is not written in the language, and settings are valid just if they are
so without being strict and every rule is written in the language. -/
theorem accepted_iff_written :
    (∀ v : Json, (ofJson v).problems = [] ↔ v.WritesRule) ∧
      (∀ (v : Json) (source : Source) (names : List String), source.rule = some (ofJson v) →
        source.violation? false names = none →
          (v.WritesRule → source.violation? true names = none) ∧
          (¬v.WritesRule → source.violation? true names =
            some (.malformedRule source.name (ofJson v).problems))) ∧
      ∀ (s : Settings) (written : List Json), s.pace.strictRules = true →
        List.Forall₂ (fun source v => source.rule = some (ofJson v)) s.sources written →
        (s.validate.violation = none ↔
          (s.override { strictRules := some false }).validate.violation = none ∧
            ∀ v ∈ written, v.WritesRule) := by
  refine ⟨problems_ofJson_eq_nil_iff, ?_, ?_⟩
  · intro v source names hrule hlenient
    have hproblems : source.problems = (ofJson v).problems := by rw [Source.problems, hrule]
    rw [source.violation?_true_of_lenient hlenient, ← problems_ofJson_eq_nil_iff, ← hproblems]
    constructor
    · exact source.ruleViolation?_eq_none_iff.2
    · intro hsome
      rw [Source.ruleViolation?, if_neg fun h => hsome (List.isEmpty_iff.1 h)]
  · intro s written hstrict hwritten
    have hproblems : (∀ source ∈ s.sources, source.problems = []) ↔
        ∀ v ∈ written, v.WritesRule := by
      constructor
      · intro h v hv
        obtain ⟨source, hsource, hrule⟩ := Text.exists_of_forall₂ hwritten.flip hv
        rw [← problems_ofJson_eq_nil_iff, ← h source hsource, Source.problems, hrule]
      · intro h source hsource
        obtain ⟨v, hv, hrule⟩ := Text.exists_of_forall₂ hwritten hsource
        rw [Source.problems, hrule]
        exact (problems_ofJson_eq_nil_iff v).2 (h v hv)
    rw [Settings.violation_validate_eq_none_iff, Settings.violation_validate_eq_none_iff,
      Settings.valid_iff_lenient hstrict, hproblems]

/-- A nested rule with the text of the innermost condition left open. -/
def nested (text : Json) : Json :=
  .object [("or", .array [.object [
    ("condition", .array [.object [("or", .array [.object [("tag", .string "h1"),
      ("text_contains", text), ("value", .null)]])]]),
    ("extract", .object [("from_tag", .string "h1")]), ("type", .string "tea")]])]

/-- Strict settings with a nested rule. -/
def nestedSettings (text : Json) : Settings where
  pace := { strictRules := true }
  identity := { name := "scout", version := "1", url := "http://[::1]/", email := "a@b.c" }
  sources := [{ name := "tea", rootUrl := "http://[::1]/", rule := some (ofJson (nested text)) }]

/-- A number in the innermost condition is outside the language, a truth value is not. -/
theorem accepted_iff_written_nested :
    (nested (.bool true)).WritesRule ∧ ¬(nested (.number (.int 5))).WritesRule ∧
      (nestedSettings (.bool true)).validate.violation = none ∧
      (nestedSettings (.number (.int 5))).validate.violation ≠ none := by
  obtain ⟨hlanguage, -, hsettings⟩ := accepted_iff_written
  have hgood : (nested (.bool true)).WritesRule := (hlanguage _).1 (by decide +kernel)
  have hbad : ¬(nested (.number (.int 5))).WritesRule := fun h =>
    absurd ((hlanguage _).2 h) (by decide +kernel)
  have hlenient : ((nestedSettings (.bool true)).override
      { strictRules := some false }).validate.violation.isNone = true := by
    decide +kernel
  have hone : ∀ text, List.Forall₂ (fun (source : Source) v => source.rule = some (ofJson v))
      (nestedSettings text).sources [nested text] :=
    fun _ => .cons rfl .nil
  refine ⟨hgood, hbad, ?_, ?_⟩
  · refine (hsettings _ _ rfl (hone _)).2 ⟨Option.isNone_iff_eq_none.1 hlenient, ?_⟩
    rw [List.forall_mem_singleton]
    exact hgood
  · intro h
    exact hbad (((hsettings _ _ rfl (hone _)).1 h).2 _ (List.mem_singleton.2 rfl))

end Rule

end Prospector
