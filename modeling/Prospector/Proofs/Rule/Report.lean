import Prospector.Proofs.Rule.Clause
import Prospector.Proofs.Text.Digit

/-!
# Reports on rules

The report on a rule names each clause that can never do what its writer meant, once, in the order
in which the clauses are written. What stands before the first colon of a line is the path to the
clause. A group of conditions and a list of alternatives are written alike in paths, but no clause
has both inside, so that no two clauses of a rule have paths that are written alike.

## Main definitions

* `Clause.flaw?` : what is wrong with a clause by itself.
* `ClausePath.text` : how a path is written.

## Main results

* `Clause.lists_flaws` : flaws are listed clause by clause.
* `Clause.path_eq_of_text_eq` : the clause is found by its written path.
* `Rule.report_complete` : every flawed clause is reported once, in order and told apart.
-/

namespace Prospector

/-! ## Flawed clauses -/

namespace Clause

/-- What is wrong with a clause by itself, if anything is: that it is malformed, or an extraction
without a tag. -/
def flaw? : Clause → Option ClauseFlaw
  | .rule (.malformed flaw) => some flaw
  | .condition (.malformed flaw) => some flaw
  | .extraction x => if x.tag = "" then some .noExtractionTag else none
  | _ => none

/-- The problems of a clause, seen from there. -/
def problems : Clause → List Problem
  | .rule r => r.problems
  | .condition c => c.problems
  | .extraction x => x.problems

/-- The flaws in a clause, each with the path to it. -/
def flaws (c : Clause) : List (ClausePath × ClauseFlaw) :=
  c.problems.map fun problem => (problem.path, problem.flaw)

end Clause

theorem conditionProblems_eq (step : Nat → ClauseStep) (index : Nat)
    (conditions : List Condition) : conditionProblems step index conditions =
      (conditions.zipIdx index).flatMap fun m => m.1.problems.map (.within (step m.2)) := by
  induction conditions generalizing index with
  | nil => rfl
  | cons c conditions ih => rw [conditionProblems, ih, List.zipIdx_cons, List.flatMap_cons]

theorem ruleProblems_eq (index : Nat) (rules : List Rule) : ruleProblems index rules =
    (rules.zipIdx index).flatMap fun m => m.1.problems.map (.within (.alternative m.2)) := by
  induction rules generalizing index with
  | nil => rfl
  | cons r rules ih => rw [ruleProblems, ih, List.zipIdx_cons, List.flatMap_cons]

theorem Clause.problems_eq (c : Clause) :
    c.problems = c.flaw?.toList.map (Problem.mk []) ++
      c.children.flatMap fun child => child.2.problems.map (.within child.1) := by
  cases c with
  | rule r =>
      cases r with
      | oneOf rules =>
          show ruleProblems 0 rules = _
          rw [ruleProblems_eq, children, List.flatMap_map]
          rfl
      | predicate p =>
          obtain ⟨condition, kind, extraction⟩ := p
          cases extraction <;> simp [problems, children, flaw?, Rule.problems, Predicate.problems]
      | malformed flaw => rfl
  | condition condition =>
      cases condition with
      | all conditions =>
          show conditionProblems .all 0 conditions = _
          rw [conditionProblems_eq, children, List.flatMap_map]
          rfl
      | any conditions =>
          show conditionProblems .any 0 conditions = _
          rw [conditionProblems_eq, children, List.flatMap_map]
          rfl
      | tag _ | malformed _ => rfl
  | extraction x =>
      by_cases h : x.tag = "" <;> simp [problems, children, flaw?, Extraction.problems, h]

/-- Problems are listed clause by clause. -/
theorem Clause.lists_flaws : Lists flaw? flaws := by
  intro c
  simp only [flaws]
  rw [c.problems_eq, List.map_append, List.map_map, List.map_flatMap]
  simp only [List.map_map]
  rfl

/-! ## Written paths -/

/-- A step as it is named in a written path, behind the dot. -/
def ClauseStep.name : ClauseStep → String
  | .alternative i | .any i => "or[" ++ String.ofList (Text.decimal i) ++ "]"
  | .condition => "condition"
  | .all i => "and[" ++ String.ofList (Text.decimal i) ++ "]"
  | .extraction => "extract"

/-- A path as it is written: the names of the steps from the root, with dots between them. -/
def ClausePath.text (path : ClausePath) : String :=
  "rule" ++ String.join (path.map ClauseStep.text)

/-- A line of a report, in which flaws are described by other means than their messages. -/
def Problem.line (describe : ClauseFlaw → String) (problem : Problem) : String :=
  ClausePath.text problem.path ++ ": " ++ describe problem.flaw

theorem ClauseStep.toList_text (step : ClauseStep) :
    step.text.toList = '.' :: step.name.toList := by
  cases step with
  | condition | extraction => decide
  | alternative i | all i | any i =>
      simp only [text, name, String.toList_append]
      rfl

theorem ClausePath.toList_text (path : ClausePath) :
    (ClausePath.text path).toList =
      ['.'].intercalate ("rule".toList :: path.map fun step => step.name.toList) := by
  have hjoin : ∀ (first : List Char) (path : ClausePath),
      first ++ (path.map ClauseStep.text).flatMap String.toList =
        ['.'].intercalate (first :: path.map fun step => step.name.toList) := by
    intro first path
    induction path generalizing first with
    | nil => simp
    | cons step path ih =>
        rw [List.map_cons, List.flatMap_cons, List.map_cons, List.intercalate_cons_cons, ← ih,
          step.toList_text, List.append_assoc]
        rfl
  rw [text, String.toList_append, String.toList_join, hjoin]

/-- Neither of the marks that stand between and behind names stands in a name. -/
theorem ClauseStep.not_mem_name {mark : Char} (hmark : mark = '.' ∨ mark = ':')
    (step : ClauseStep) : mark ∉ step.name.toList := by
  have hdigit : Text.isDigit mark = false := by rcases hmark with rfl | rfl <;> rfl
  have hclose : mark ∉ "]".toList := by rcases hmark with rfl | rfl <;> decide
  have hindexed : ∀ (key : String) (i : Nat), mark ∉ key.toList →
      mark ∉ (key ++ String.ofList (Text.decimal i) ++ "]").toList := by
    intro key i hkey h
    rw [String.toList_append, String.toList_append, String.toList_ofList] at h
    rcases List.mem_append.1 h with h | h
    · rcases List.mem_append.1 h with h | h
      · exact hkey h
      · exact Text.ne_of_isDigit (Text.isDigit_of_mem_decimal h) hdigit rfl
    · exact hclose h
  cases step with
  | condition | extraction => rcases hmark with rfl | rfl <;> decide
  | alternative i | any i =>
      refine hindexed "or[" i ?_
      rcases hmark with rfl | rfl <;> decide
  | all i =>
      refine hindexed "and[" i ?_
      rcases hmark with rfl | rfl <;> decide

theorem ClausePath.colon_not_mem_text (path : ClausePath) :
    ':' ∉ (ClausePath.text path).toList := by
  intro h
  rw [ClausePath.toList_text] at h
  rcases Text.mem_intercalate h with heq | ⟨name, hname, hc⟩
  · exact absurd heq (by decide)
  · rcases List.mem_cons.1 hname with rfl | hname
    · exact absurd hc (by decide)
    · obtain ⟨step, -, rfl⟩ := List.mem_map.1 hname
      exact step.not_mem_name (.inr rfl) hc

/-- The names in a path can be told apart where it is written. -/
theorem ClausePath.map_name_eq_of_text_eq {p q : ClausePath}
    (h : ClausePath.text p = ClausePath.text q) :
    p.map ClauseStep.name = q.map ClauseStep.name := by
  have hsplit : ∀ path : ClausePath, (ClausePath.text path).toList.splitOn '.' =
      "rule".toList :: path.map fun step => step.name.toList := by
    intro path
    rw [ClausePath.toList_text]
    refine List.splitOn_intercalate '.' ?_ (List.cons_ne_nil _ _)
    intro name hname hdot
    rcases List.mem_cons.1 hname with rfl | hname
    · exact absurd hdot (by decide)
    · obtain ⟨step, -, rfl⟩ := List.mem_map.1 hname
      exact step.not_mem_name (.inl rfl) hdot
  have hnames : (p.map fun step => step.name.toList) = q.map fun step => step.name.toList := by
    have hsplits := hsplit p
    rw [h, hsplit q] at hsplits
    exact (List.cons.inj hsplits).2.symm
  have hinjective : Function.Injective String.toList := fun _ _ => String.toList_inj.1
  refine (List.map_injective_iff.2 hinjective) ?_
  rw [List.map_map, List.map_map]
  exact hnames

theorem ClauseStep.eq_of_indexed_eq {key : String} {i j : Nat}
    (h : key ++ String.ofList (Text.decimal i) ++ "]" =
      key ++ String.ofList (Text.decimal j) ++ "]") : i = j := by
  have hlists := congrArg String.toList h
  rw [String.toList_append, String.toList_append, String.toList_append, String.toList_append,
    String.toList_ofList, String.toList_ofList] at hlists
  have hdigits := List.append_cancel_left (List.append_cancel_right hlists)
  rw [String.toList_ofList] at hdigits
  rw [← Text.decimalValue_decimal i, hdigits, Text.decimalValue_decimal]

theorem ClauseStep.Before.name_ne {s t : ClauseStep} (h : s.Before t) : s.name ≠ t.name := by
  cases h with
  | alternative hlt | all hlt | any hlt => exact fun heq => hlt.ne (eq_of_indexed_eq heq)
  | condition => decide

/-- Steps from one clause are told apart by their names: `or` names alternatives of rules and
members of groups of conditions, but no clause has both. -/
theorem Clause.step_eq_of_name_eq {c inner other : Clause} {s t : ClauseStep}
    (hs : c.inner? s = some inner) (ht : c.inner? t = some other) (h : s.name = t.name) :
    s = t := by
  rcases eq_or_before hs ht with heq | hbefore | hbefore
  · exact heq
  · exact absurd h hbefore.name_ne
  · exact absurd h.symm hbefore.name_ne

/-- The clause is found by its written path: paths from one clause that lead somewhere are told
apart by the names of their steps. -/
theorem Clause.path_eq_of_map_name_eq {c : Clause} {p q : ClausePath}
    (hp : (c.at? p).isSome = true) (hq : (c.at? q).isSome = true)
    (h : p.map ClauseStep.name = q.map ClauseStep.name) : p = q := by
  induction p generalizing c q with
  | nil => exact (List.map_eq_nil_iff.1 h.symm).symm
  | cons s p ih =>
      cases q with
      | nil => cases h
      | cons t q =>
          obtain ⟨hname, hrest⟩ := List.cons.inj h
          obtain ⟨last, hlast⟩ := Option.isSome_iff_exists.1 hp
          obtain ⟨last', hlast'⟩ := Option.isSome_iff_exists.1 hq
          obtain ⟨inner, hs, hp⟩ := at?_cons_eq_some_iff.1 hlast
          obtain ⟨inner', ht, hq⟩ := at?_cons_eq_some_iff.1 hlast'
          obtain rfl := step_eq_of_name_eq hs ht hname
          obtain rfl := Option.some.inj (hs.symm.trans ht)
          rw [ih (Option.isSome_of_eq_some hp) (Option.isSome_of_eq_some hq) hrest]

theorem Clause.path_eq_of_text_eq {c : Clause} {p q : ClausePath} (hp : (c.at? p).isSome = true)
    (hq : (c.at? q).isSome = true) (h : ClausePath.text p = ClausePath.text q) : p = q :=
  path_eq_of_map_name_eq hp hq (ClausePath.map_name_eq_of_text_eq h)

/-! ## Lines of a report -/

namespace Problem

variable (describe : ClauseFlaw → String)

/-- What stands before the first colon of a line is the written path. -/
theorem takeWhile_line (problem : Problem) :
    (problem.line describe).toList.takeWhile (· ≠ ':') =
      (ClausePath.text problem.path).toList := by
  have hpath : ∀ c ∈ (ClausePath.text problem.path).toList, decide (c ≠ ':') = true := by
    intro c hc
    refine decide_eq_true ?_
    rintro rfl
    exact ClausePath.colon_not_mem_text _ hc
  rw [line, String.toList_append, String.toList_append, List.append_assoc,
    List.takeWhile_append_of_pos hpath]
  exact List.append_nil _

theorem text_eq_of_line_eq {describe : ClauseFlaw → String} {p q : Problem}
    (h : p.line describe = q.line describe) :
    ClausePath.text p.path = ClausePath.text q.path := by
  have hbefore := p.takeWhile_line describe
  rw [h, q.takeWhile_line describe] at hbefore
  exact (String.toList_inj.1 hbefore).symm

end Problem

/-! ## Reports -/

/-- Problems are flawed clauses with the paths to them. -/
theorem Rule.mem_problems_iff {r : Rule} {problem : Problem} :
    problem ∈ r.problems ↔ ∃ clause, (Clause.rule r).at? problem.path = some clause ∧
      clause.flaw? = some problem.flaw := by
  rw [← Clause.lists_flaws.mem_iff]
  constructor
  · intro h
    exact List.mem_map.2 ⟨problem, h, rfl⟩
  · intro h
    obtain ⟨found, hfound, heq⟩ := List.mem_map.1 h
    obtain ⟨path, flaw⟩ := found
    obtain ⟨rfl, rfl⟩ := Prod.mk.inj heq
    exact hfound

theorem Rule.pairwise_problems (r : Rule) :
    r.problems.Pairwise fun p q => ClausePath.Precedes p.path q.path := by
  have hflaws := Clause.lists_flaws.pairwise (.rule r)
  rw [Clause.flaws, List.pairwise_map] at hflaws
  exact hflaws

theorem Rule.isSome_at?_of_mem_problems {r : Rule} {problem : Problem} (h : problem ∈ r.problems) :
    ((Clause.rule r).at? problem.path).isSome = true := by
  obtain ⟨clause, hclause, -⟩ := mem_problems_iff.1 h
  exact Option.isSome_of_eq_some hclause

/-- The problems of a rule are its flawed clauses: each malformed rule in it, each malformed
condition and each extraction without a tag, once, depth first and from left to right, the condition
of a predicate before its extraction. In whatever words the flaws are described, what stands before
the first colon of a line is the path from the root to the clause, no other clause of the rule has
a path that is written alike, and no line comes twice. -/
theorem Rule.report_complete (r : Rule) :
    (∀ problem : Problem, problem ∈ r.problems ↔
        ∃ clause, (Clause.rule r).at? problem.path = some clause ∧
          clause.flaw? = some problem.flaw) ∧
      (r.problems.Pairwise fun p q => ClausePath.Precedes p.path q.path) ∧
      (∀ describe : ClauseFlaw → String,
        (∀ problem ∈ r.problems,
          (problem.line describe).toList.takeWhile (· ≠ ':') =
              (ClausePath.text problem.path).toList ∧
            ∀ path clause, (Clause.rule r).at? path = some clause →
              ClausePath.text path = ClausePath.text problem.path → path = problem.path) ∧
          (r.problems.map (Problem.line describe)).Nodup) ∧
      ∀ problem : Problem, problem.message = problem.line ClauseFlaw.message := by
  refine ⟨fun _ => mem_problems_iff, r.pairwise_problems, fun describe => ⟨?_, ?_⟩,
    fun _ => rfl⟩
  · intro problem hproblem
    refine ⟨problem.takeWhile_line describe, fun path clause hclause htext => ?_⟩
    exact Clause.path_eq_of_text_eq (Option.isSome_of_eq_some hclause)
      (isSome_at?_of_mem_problems hproblem) htext
  · rw [List.Nodup, List.pairwise_map]
    refine r.pairwise_problems.imp_of_mem fun hp hq hprecedes hline => ?_
    exact hprecedes.ne (Clause.path_eq_of_text_eq (isSome_at?_of_mem_problems hp)
      (isSome_at?_of_mem_problems hq) (Problem.text_eq_of_line_eq hline))

/-- A rule in which a condition three groups deep, an extraction and an alternative are flawed. -/
def flawedRule : Rule :=
  .oneOf
    [.predicate {
      condition := .all [.tag { tag := "h1" }, .any [.malformed .noTag]]
      kind := "tea"
      extraction := some {} },
    .malformed (.ruleNotObject .string)]

/-- The path to the flawed condition, in which `or` stands for both kinds of groups, leads to
this condition only. -/
theorem Rule.report_complete_flawed :
    let path : ClausePath := [.alternative 0, .condition, .all 1, .any 0]
    let problem : Problem := ⟨path, .noTag⟩
    problem ∈ flawedRule.problems ∧
      flawedRule.problems.map Problem.message =
        ["rule.or[0].condition.and[1].or[0]: condition has no 'tag'",
          "rule.or[0].extract: missing 'from_tag'",
          "rule.or[1]: rule must be an object, got a string"] ∧
      problem.message.toList.takeWhile (· ≠ ':') = "rule.or[0].condition.and[1].or[0]".toList ∧
      ∀ other clause, (Clause.rule flawedRule).at? other = some clause →
        ClausePath.text other = "rule.or[0].condition.and[1].or[0]" → other = path := by
  intro path problem
  obtain ⟨-, -, hlines, hmessage⟩ := report_complete flawedRule
  have hproblem : problem ∈ flawedRule.problems := by decide +kernel
  have htext : ClausePath.text path = "rule.or[0].condition.and[1].or[0]" := by decide +kernel
  obtain ⟨hbefore, honly⟩ := (hlines ClauseFlaw.message).1 problem hproblem
  refine ⟨hproblem, by decide +kernel, ?_, ?_⟩
  · rw [hmessage, hbefore]
    exact congrArg String.toList htext
  · intro other clause hclause hother
    exact honly other clause hclause (hother.trans htext.symm)

end Prospector
