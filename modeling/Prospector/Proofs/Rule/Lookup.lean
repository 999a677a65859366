import Mathlib.Data.List.Flatten
import Prospector.Proofs.Rule.Meaning

/-!
# What rules look up

A rule sees of a document what it looks up, and it looks up no more than it has to. Its run is put
together from lookups in such a way that the next one is chosen by what the last ones found, so that
a document which has the same elements of the tags that were looked up is classified by the same
lookups and in the same way. Which tags these are can be read off the leaves: the conditions of the
leaves up to the first that holds are evaluated one after another, and then the tag of its
extraction is looked up, and nothing else.

## Main definitions

* `Traced.IsLocal` : runs that depend on nothing but what they look up.
* `Condition.tags`, `Rule.tags` : the tags that are named, from left to right.

## Main results

* `Rule.isLocal_classify` : classification depends on nothing but what it looks up.
* `Rule.classify_eq_classifyFirst` : a rule runs as its leaves do one after another.
* `Rule.lookups_local` : which lookups a classification makes, and on what they depend.
-/

namespace Prospector

/-! ## Runs one after another -/

namespace Traced

variable {α β : Type}

/-- The first of two runs that finds something; the second one is not begun if the first one
does. -/
def orElse (t next : Traced (Option α)) : Traced (Option α) :=
  t.andThen fun found =>
    match found with
    | some a => .still (some a)
    | none => next

theorem orElse_of_some {t : Traced (Option α)} {a : α} (h : t.value = some a)
    (next : Traced (Option α)) : t.orElse next = t := by
  obtain ⟨value, lookups⟩ := t
  obtain rfl : value = some a := h
  exact congrArg (Traced.mk (some a)) (List.append_nil lookups)

theorem orElse_of_none {t : Traced (Option α)} (h : t.value = none) (next : Traced (Option α)) :
    t.orElse next = ⟨next.value, t.lookups ++ next.lookups⟩ := by
  obtain ⟨value, lookups⟩ := t
  obtain rfl : value = none := h
  rfl

@[simp] theorem orElse_still_none (t : Traced (Option α)) : t.orElse (.still none) = t := by
  cases h : t.value with
  | none =>
      rw [orElse_of_none h, lookups_still, List.append_nil, value_still, ← h]
  | some a => exact orElse_of_some h _

theorem orElse_assoc (t u v : Traced (Option α)) :
    (t.orElse u).orElse v = t.orElse (u.orElse v) := by
  cases h : t.value with
  | some a => rw [orElse_of_some h, orElse_of_some h, orElse_of_some h]
  | none =>
      rw [orElse_of_none h, orElse_of_none h]
      cases hu : u.value with
      | some a => rw [orElse_of_some hu, orElse_of_some rfl, hu]
      | none => rw [orElse_of_none hu, orElse_of_none rfl, List.append_assoc]

/-! ## Runs that depend on their lookups only -/

/-- A run on documents depends on nothing but what it looks up if it is the same, in its lookups and
in what it finds, on every document that has the same elements of the tags it looked up. -/
def IsLocal (run : Document → Traced α) : Prop :=
  ∀ d e : Document, (∀ tag ∈ (run d).lookups, e.elements tag = d.elements tag) → run e = run d

theorem isLocal_still (a : α) : IsLocal fun _ => still a :=
  fun _ _ _ => rfl

theorem isLocal_lookup (tag : String) : IsLocal fun d => d.lookup tag := by
  intro d e h
  have htag : e.elements tag = d.elements tag := h tag List.mem_cons_self
  exact congrArg (fun elements => (⟨elements, [tag]⟩ : Traced (List Element))) htag

theorem IsLocal.map {run : Document → Traced α} (h : IsLocal run) (f : α → β) :
    IsLocal fun d => (run d).map f :=
  fun d e hagree => congrArg (Traced.map f) (h d e hagree)

/-- What comes next may be chosen by what was found. -/
theorem IsLocal.andThen {run : Document → Traced α} {next : Document → α → Traced β}
    (h : IsLocal run) (hnext : ∀ a, IsLocal fun d => next d a) :
    IsLocal fun d => (run d).andThen (next d) := by
  intro d e hagree
  have hrun : run e = run d := h d e fun tag htag => hagree tag (List.mem_append_left _ htag)
  have hrest : next e (run d).value = next d (run d).value :=
    hnext (run d).value d e fun tag htag => hagree tag (List.mem_append_right _ htag)
  show (run e).andThen (next e) = (run d).andThen (next d)
  rw [hrun, Traced.andThen, Traced.andThen, hrest]

theorem IsLocal.orElse {run next : Document → Traced (Option α)} (h : IsLocal run)
    (hnext : IsLocal next) : IsLocal fun d => (run d).orElse (next d) := by
  refine h.andThen fun found => ?_
  cases found with
  | some a => exact isLocal_still (some a)
  | none => exact hnext

end Traced

open Traced

mutual

theorem Condition.isLocal_evaluate : ∀ c : Condition, IsLocal fun d => c.evaluate d
  | .all conditions => isLocal_evaluateAll conditions
  | .any conditions => isLocal_evaluateAny conditions
  | .tag check => (isLocal_lookup check.tag).map check.satisfiedBy
  | .malformed _ => isLocal_still false

theorem isLocal_evaluateAll : ∀ conditions : List Condition,
    IsLocal fun d => evaluateAll d conditions
  | [] => isLocal_still true
  | c :: rest => by
      refine c.isLocal_evaluate.andThen fun held => ?_
      cases held with
      | false => exact isLocal_still false
      | true => exact isLocal_evaluateAll rest

theorem isLocal_evaluateAny : ∀ conditions : List Condition,
    IsLocal fun d => evaluateAny d conditions
  | [] => isLocal_still false
  | c :: rest => by
      refine c.isLocal_evaluate.andThen fun held => ?_
      cases held with
      | false => exact isLocal_evaluateAny rest
      | true => exact isLocal_still true

end

theorem Extraction.isLocal_run (x : Extraction) : IsLocal fun d => x.run d := by
  unfold run
  split
  · exact isLocal_still none
  · exact (isLocal_lookup x.tag).map _

theorem Predicate.isLocal_extract (p : Predicate) : IsLocal fun d => p.extract d := by
  unfold extract
  split
  · next x _ => exact x.isLocal_run
  · exact isLocal_still none

theorem Predicate.isLocal_classify (p : Predicate) : IsLocal fun d => p.classify d := by
  refine p.condition.isLocal_evaluate.andThen fun held => ?_
  cases held with
  | false => exact isLocal_still none
  | true => exact p.isLocal_extract.map _

theorem classifyFirst_cons (d : Document) (r : Rule) (rest : List Rule) :
    classifyFirst d (r :: rest) = (r.classify d).orElse (classifyFirst d rest) := by
  rw [classifyFirst, orElse]
  refine congrArg (Traced.andThen _) (funext fun found => ?_)
  cases found <;> rfl

mutual

/-- Classification depends on nothing but what it looks up. -/
theorem Rule.isLocal_classify : ∀ r : Rule, IsLocal fun d => r.classify d
  | .oneOf rules => isLocal_classifyFirst rules
  | .predicate p => p.isLocal_classify
  | .malformed _ => isLocal_still none

theorem isLocal_classifyFirst : ∀ rules : List Rule, IsLocal fun d => classifyFirst d rules
  | [] => isLocal_still none
  | r :: rest => by
      simp only [classifyFirst_cons]
      exact r.isLocal_classify.orElse (isLocal_classifyFirst rest)

end

/-! ## Tags -/

mutual

/-- The tags that a condition names, from left to right. -/
def Condition.tags : Condition → List String
  | .all conditions => conditionTags conditions
  | .any conditions => conditionTags conditions
  | .tag check => [check.tag]
  | .malformed _ => []

/-- The tags that the conditions of a group name, from left to right. -/
def conditionTags : List Condition → List String
  | [] => []
  | c :: rest => c.tags ++ conditionTags rest

end

/-- The tags that a predicate names: those of its condition, then that of its extraction. -/
def Predicate.tags (p : Predicate) : List String :=
  p.condition.tags ++ p.extraction.toList.map Extraction.tag

/-- The tags that a rule names, from left to right. -/
def Rule.tags (r : Rule) : List String :=
  r.leaves.flatMap Predicate.tags

mutual

/-- A condition looks up tags that it names, in the order in which it names them. -/
theorem Condition.lookups_evaluate_sublist (d : Document) :
    ∀ c : Condition, (c.evaluate d).lookups.Sublist c.tags
  | .all conditions => lookups_evaluateAll_sublist d conditions
  | .any conditions => lookups_evaluateAny_sublist d conditions
  | .tag check => List.Sublist.refl [check.tag]
  | .malformed _ => List.Sublist.refl []

theorem lookups_evaluateAll_sublist (d : Document) : ∀ conditions : List Condition,
    (evaluateAll d conditions).lookups.Sublist (conditionTags conditions)
  | [] => List.Sublist.refl []
  | c :: rest => by
      refine (c.lookups_evaluate_sublist d).append ?_
      cases (c.evaluate d).value with
      | false => exact List.nil_sublist _
      | true => exact lookups_evaluateAll_sublist d rest

theorem lookups_evaluateAny_sublist (d : Document) : ∀ conditions : List Condition,
    (evaluateAny d conditions).lookups.Sublist (conditionTags conditions)
  | [] => List.Sublist.refl []
  | c :: rest => by
      refine (c.lookups_evaluate_sublist d).append ?_
      cases (c.evaluate d).value with
      | false => exact lookups_evaluateAny_sublist d rest
      | true => exact List.nil_sublist _

end

/-- An extraction looks up its tag, if it has one. -/
theorem Extraction.lookups_run (d : Document) (x : Extraction) :
    (x.run d).lookups = if x.tag = "" then [] else [x.tag] := by
  by_cases h : x.tag = ""
  · rw [run, if_pos (String.isEmpty_iff.2 h), if_pos h, lookups_still]
  · rw [run, if_neg (mt String.isEmpty_iff.1 h), if_neg h]
    rfl

theorem Predicate.lookups_extract (d : Document) (p : Predicate) :
    (p.extract d).lookups = p.extraction.toList.flatMap fun x => (x.run d).lookups := by
  unfold extract
  cases p.extraction with
  | none => rfl
  | some x => exact (List.flatMap_singleton (fun x => (Extraction.run d x).lookups) x).symm

theorem Predicate.lookups_extract_sublist (d : Document) (p : Predicate) :
    (p.extract d).lookups.Sublist (p.extraction.toList.map Extraction.tag) := by
  rw [p.lookups_extract d]
  cases p.extraction with
  | none => exact List.Sublist.refl []
  | some x =>
      rw [Option.toList_some, List.flatMap_singleton, List.map_singleton, x.lookups_run d]
      split
      · exact List.nil_sublist _
      · exact List.Sublist.refl _

/-! ## Leaves at work -/

theorem Predicate.classify_of_holds {d : Document} {p : Predicate} (h : p.condition.Holds d) :
    p.classify d =
      ⟨some (p.classification d), (p.condition.evaluate d).lookups ++ (p.extract d).lookups⟩ := by
  have hvalue : (p.classify d).value = some (p.classification d) := by
    rw [p.value_classify, if_pos h]
  have hlookups : (p.classify d).lookups =
      (p.condition.evaluate d).lookups ++ (p.extract d).lookups := by
    rw [classify, lookups_andThen, (p.condition.value_evaluate_iff d).2 h]
    rfl
  rw [← hvalue, ← hlookups]

theorem Predicate.classify_of_not_holds {d : Document} {p : Predicate}
    (h : ¬p.condition.Holds d) : p.classify d = ⟨none, (p.condition.evaluate d).lookups⟩ := by
  have hfalse : (p.condition.evaluate d).value = false :=
    Bool.not_eq_true _ ▸ mt (p.condition.value_evaluate_iff d).1 h
  have hvalue : (p.classify d).value = none := by rw [p.value_classify, if_neg h]
  have hlookups : (p.classify d).lookups = (p.condition.evaluate d).lookups := by
    rw [classify, lookups_andThen, hfalse]
    exact List.append_nil _
  rw [← hvalue, ← hlookups]

theorem classifyFirst_append (d : Document) (rules more : List Rule) :
    classifyFirst d (rules ++ more) = (classifyFirst d rules).orElse (classifyFirst d more) := by
  induction rules with
  | nil => rfl
  | cons r rules ih => rw [List.cons_append, classifyFirst_cons, classifyFirst_cons, ih,
      orElse_assoc]

mutual

/-- A rule runs as its leaves do one after another, until one of them matches. -/
theorem Rule.classify_eq_classifyFirst (d : Document) : ∀ r : Rule,
    r.classify d = classifyFirst d (r.leaves.map .predicate)
  | .oneOf rules => classifyFirst_eq_leavesOf d rules
  | .predicate p => by
      rw [Rule.leaves, List.map_singleton, classifyFirst_cons]
      exact (orElse_still_none _).symm
  | .malformed _ => rfl

theorem classifyFirst_eq_leavesOf (d : Document) : ∀ rules : List Rule,
    classifyFirst d rules = classifyFirst d ((leavesOf rules).map .predicate)
  | [] => rfl
  | r :: rest => by
      rw [leavesOf, List.map_append, classifyFirst_append, ← r.classify_eq_classifyFirst d,
        ← classifyFirst_eq_leavesOf d rest, classifyFirst_cons]

end

/-- Leaves of which none holds: all their conditions are evaluated. -/
theorem classifyFirst_of_forall_not {d : Document} {leaves : List Predicate}
    (h : ∀ q ∈ leaves, ¬q.condition.Holds d) :
    classifyFirst d (leaves.map .predicate) =
      ⟨none, leaves.flatMap fun q => (q.condition.evaluate d).lookups⟩ := by
  induction leaves with
  | nil => rfl
  | cons p leaves ih =>
      have hp : (Rule.predicate p).classify d = ⟨none, (p.condition.evaluate d).lookups⟩ :=
        Predicate.classify_of_not_holds (h p List.mem_cons_self)
      rw [List.map_cons, classifyFirst_cons, hp, orElse_of_none rfl,
        ih fun q hq => h q (List.mem_cons_of_mem p hq), List.flatMap_cons]

/-- Leaves the first of which that holds is given: the conditions up to it are evaluated, then its
extraction is run. -/
theorem classifyFirst_of_first {d : Document} {before after : List Predicate} {p : Predicate}
    (hbefore : ∀ q ∈ before, ¬q.condition.Holds d) (hp : p.condition.Holds d) :
    classifyFirst d ((before ++ p :: after).map .predicate) =
      ⟨some (p.classification d),
        (before ++ [p]).flatMap (fun q => (q.condition.evaluate d).lookups) ++
          (p.extract d).lookups⟩ := by
  have hclassify : (Rule.predicate p).classify d = _ := Predicate.classify_of_holds hp
  rw [List.map_append, List.map_cons, classifyFirst_append, classifyFirst_of_forall_not hbefore,
    orElse_of_none rfl, classifyFirst_cons, hclassify, orElse_of_some rfl, List.flatMap_append,
    List.flatMap_singleton, List.append_assoc]

theorem exists_first_or_forall_not (d : Document) (leaves : List Predicate) :
    (∀ q ∈ leaves, ¬q.condition.Holds d) ∨
      ∃ before p after, leaves = before ++ p :: after ∧
        (∀ q ∈ before, ¬q.condition.Holds d) ∧ p.condition.Holds d := by
  cases h : firstLeaf? d leaves with
  | none =>
      refine .inl fun q hq => ?_
      simpa using List.find?_eq_none.1 h q hq
  | some p =>
      obtain ⟨before, after, hleaves⟩ := (firstLeaf?_eq_some_iff d leaves p).1 h
      exact .inr ⟨before, p, after, hleaves⟩

theorem Predicate.lookups_evaluate_sublist (d : Document) (p : Predicate) :
    (p.condition.evaluate d).lookups.Sublist p.tags :=
  (p.condition.lookups_evaluate_sublist d).trans (List.sublist_append_left _ _)

/-- A rule looks up tags that it names, in the order in which it names them. -/
theorem Rule.lookups_classify_sublist (d : Document) (r : Rule) :
    (r.classify d).lookups.Sublist r.tags := by
  rw [r.classify_eq_classifyFirst d, tags]
  rcases exists_first_or_forall_not d r.leaves with
    hnone | ⟨before, p, after, hleaves, hbefore, hp⟩
  · rw [classifyFirst_of_forall_not hnone]
    exact List.Sublist.flatMap_right _ fun q _ => q.lookups_evaluate_sublist d
  · have hpast : (before.flatMap fun q => (q.condition.evaluate d).lookups).Sublist
        (before.flatMap Predicate.tags) :=
      List.Sublist.flatMap_right _ fun q _ => q.lookups_evaluate_sublist d
    have hfirst : ((p.condition.evaluate d).lookups ++ (p.extract d).lookups).Sublist p.tags :=
      (p.condition.lookups_evaluate_sublist d).append (p.lookups_extract_sublist d)
    rw [hleaves, classifyFirst_of_first hbefore hp, List.flatMap_append, List.flatMap_singleton,
      List.append_assoc, List.flatMap_append, List.flatMap_cons]
    exact hpast.append (hfirst.trans (List.sublist_append_left _ _))

/-! ## Classification -/

/-- Classification on two documents that have the same elements of every tag that it looked up on
one of them makes the same lookups and finds the same. What it looks up are tags that the rule names
in the order in which it names them, and just these: if no leaf holds, what the conditions of all
leaves look up one after another; otherwise what the conditions of the leaves up to the first that
holds look up, and then the tag of the extraction of this leaf, if it has one, which comes last. -/
theorem Rule.lookups_local (d : Document) (r : Rule) :
    (∀ e : Document, (∀ tag ∈ (r.classify d).lookups, e.elements tag = d.elements tag) →
        r.classify e = r.classify d) ∧
      (r.classify d).lookups.Sublist r.tags ∧
      (∀ q ∈ r.leaves, (q.condition.evaluate d).lookups.Sublist q.condition.tags) ∧
      ((∀ q ∈ r.leaves, ¬q.condition.Holds d) →
        r.classify d = ⟨none, r.leaves.flatMap fun q => (q.condition.evaluate d).lookups⟩) ∧
      ∀ before p after, r.leaves = before ++ p :: after →
        (∀ q ∈ before, ¬q.condition.Holds d) → p.condition.Holds d →
          r.classify d = ⟨some (p.classification d),
            (before ++ [p]).flatMap (fun q => (q.condition.evaluate d).lookups) ++
              p.extraction.toList.flatMap fun x => if x.tag = "" then [] else [x.tag]⟩ := by
  refine ⟨fun e => r.isLocal_classify d e, r.lookups_classify_sublist d,
    fun q _ => q.condition.lookups_evaluate_sublist d, ?_, ?_⟩
  · intro hnone
    rw [r.classify_eq_classifyFirst d]
    exact classifyFirst_of_forall_not hnone
  · intro before p after hleaves hbefore hp
    rw [r.classify_eq_classifyFirst d, hleaves, classifyFirst_of_first hbefore hp,
      p.lookups_extract d]
    simp only [Extraction.lookups_run]

/-- A page that agrees with the leaflet in its headings and paragraphs and has a table, which the
leaflet has not. -/
def Document.poster : Document where
  elements tag :=
    if tag = "table" then [{ attr := fun _ => none, chunks := [], markup := "<table></table>" }]
    else Document.leaflet.elements tag

/-- The rule looks at paragraphs for the price and at headings for tea, then takes the heading; the
leaf behind is not reached, and the table makes no difference. -/
theorem Rule.lookups_local_leaflet :
    let r := leafletRule (some { tag := "h1" })
    r.classify .leaflet = ⟨some ⟨"tea", some ⟨"<h1> Tea </h1>", "Tea"⟩⟩, ["p", "h1", "h1"]⟩ ∧
      r.classify .poster = r.classify .leaflet := by
  intro r
  obtain ⟨hlocal, -, -, -, hfirst⟩ := lookups_local .leaflet r
  have hrun : r.classify .leaflet =
      ⟨some ⟨"tea", some ⟨"<h1> Tea </h1>", "Tea"⟩⟩, ["p", "h1", "h1"]⟩ :=
    (hfirst [leafletPrice] (leafletTea (some { tag := "h1" })) _ rfl (by decide +kernel)
      (by decide +kernel)).trans (by decide +kernel)
  refine ⟨hrun, hlocal .poster ?_⟩
  rw [hrun]
  intro tag htag
  have hne : tag ≠ "table" := by
    rintro rfl
    exact absurd htag (by decide)
  exact if_neg hne

end Prospector
