import Prospector.Rule.Basic
import Prospector.Text.Digit

/-!
# Problems of rules

A problem of a rule is a clause that can never do what its writer meant: a malformed rule or
condition, or an extraction without a tag. It is reported with the path from the root of the rule
to the clause.
-/

namespace Prospector

/-- One step from a clause to a clause inside it. -/
inductive ClauseStep where
  | alternative (index : Nat)
  | condition
  | all (index : Nat)
  | any (index : Nat)
  | extraction
  deriving DecidableEq, Repr, Inhabited

/-- A step as it is written in a path. -/
def ClauseStep.text : ClauseStep → String
  | .alternative index => ".or[" ++ String.ofList (Text.decimal index) ++ "]"
  | .condition => ".condition"
  | .all index => ".and[" ++ String.ofList (Text.decimal index) ++ "]"
  | .any index => ".or[" ++ String.ofList (Text.decimal index) ++ "]"
  | .extraction => ".extract"

/-- A flaw and the path to its clause. -/
structure Problem where
  path : List ClauseStep
  flaw : ClauseFlaw
  deriving DecidableEq, Repr, Inhabited

/-- The problem as seen from one step further out. -/
def Problem.within (step : ClauseStep) (p : Problem) : Problem :=
  { p with path := step :: p.path }

/-- The message for a problem: its path from the root and what is wrong there. -/
def Problem.message (p : Problem) : String :=
  "rule" ++ String.join (p.path.map ClauseStep.text) ++ ": " ++ p.flaw.message

mutual

/-- The problems of a condition, from left to right. -/
def Condition.problems : Condition → List Problem
  | .all conditions => conditionProblems .all 0 conditions
  | .any conditions => conditionProblems .any 0 conditions
  | .tag _ => []
  | .malformed flaw => [⟨[], flaw⟩]

/-- The problems of the conditions of a group, the first of which has the given index. -/
def conditionProblems (step : Nat → ClauseStep) (index : Nat) : List Condition → List Problem
  | [] => []
  | c :: rest =>
    c.problems.map (.within (step index)) ++ conditionProblems step (index + 1) rest

end

/-- The problem of an extraction: that it has no tag. -/
def Extraction.problems (e : Extraction) : List Problem :=
  if e.tag.isEmpty then [⟨[], .noExtractionTag⟩] else []

/-- The problems of a predicate: those of its condition, then that of its extraction. -/
def Predicate.problems (p : Predicate) : List Problem :=
  p.condition.problems.map (.within .condition) ++
    match p.extraction with
    | some e => e.problems.map (.within .extraction)
    | none => []

mutual

/-- The problems of a rule, from left to right. -/
def Rule.problems : Rule → List Problem
  | .oneOf rules => ruleProblems 0 rules
  | .predicate p => p.problems
  | .malformed flaw => [⟨[], flaw⟩]

/-- The problems of the alternatives of a rule, the first of which has the given index. -/
def ruleProblems (index : Nat) : List Rule → List Problem
  | [] => []
  | r :: rest =>
    r.problems.map (.within (.alternative index)) ++ ruleProblems (index + 1) rest

end

end Prospector
