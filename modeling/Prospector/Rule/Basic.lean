/-!
# Detection rules

A rule says what kind of page a document is. It is a tree of ordered alternatives whose leaves are
predicates: a condition on the document, the name of the kind of page, and what to extract from a
page of that kind. A clause of a written rule that is no part of the rule language stays in the
tree, together with what is wrong with it; it never matches.
-/

namespace Prospector

/-- The kinds of values that a clause can be written as. -/
inductive ValueKind where
  | null
  | boolean
  | number
  | string
  | list
  | object
  deriving DecidableEq, Repr, Inhabited

/-- The name of a kind of values in messages. -/
def ValueKind.name : ValueKind → String
  | .null => "null"
  | .boolean => "a boolean"
  | .number => "a number"
  | .string => "a string"
  | .list => "a list"
  | .object => "an object"

/-- What is wrong with a clause. -/
inductive ClauseFlaw where
  | ruleNotObject (found : ValueKind)
  | alternativesNotList
  | noCondition
  | noType
  | typeNotString (found : ValueKind)
  | conditionNotGroup (found : ValueKind)
  /-- The value under `and` or `or` of a condition is no list. -/
  | groupNotList (key : String)
  | noTag
  | notString (key : String) (found : ValueKind)
  | textCheckNotText (found : ValueKind)
  | noExtractionTag
  deriving DecidableEq, Repr, Inhabited

/-- The message for a flaw. -/
def ClauseFlaw.message : ClauseFlaw → String
  | .ruleNotObject found => "rule must be an object, got " ++ found.name
  | .alternativesNotList => "'or' must be a list of rules"
  | .noCondition => "rule has neither 'or' nor 'condition'"
  | .noType => "predicate is missing 'type'"
  | .typeNotString found => "'type' must be a string, got " ++ found.name
  | .conditionNotGroup found => "condition must be an object or a list, got " ++ found.name
  | .groupNotList key => "'" ++ key ++ "' must be a list of conditions"
  | .noTag => "condition has no 'tag'"
  | .notString key found => "'" ++ key ++ "' must be a string, got " ++ found.name
  | .textCheckNotText found =>
    "'text_contains' must be a string or a boolean, got " ++ found.name
  | .noExtractionTag => "missing 'from_tag'"

/-- A check of an element's text, trimmed. -/
inductive TextCheck where
  /-- The text has to contain the given one. -/
  | contains (part : String)
  /-- The text must not be empty, if `wanted`; otherwise every text will do. -/
  | nonEmpty (wanted : Bool)
  deriving DecidableEq, Repr, Inhabited

/-- A check of the elements of one tag. -/
structure TagCheck where
  tag : String
  /-- Whether the presence of an element of the tag is enough. -/
  presence : Bool := false
  attr : Option String := none
  /-- The value that the attribute `attr` must have; without one the attribute must be absent. -/
  value : Option String := none
  /-- The value that the attribute `content` must have. -/
  content : Option String := none
  text : Option TextCheck := none
  deriving DecidableEq, Repr, Inhabited

/-- A condition on a document. -/
inductive Condition where
  /-- Every one of the conditions holds. -/
  | all (conditions : List Condition)
  /-- At least one of the conditions holds. -/
  | any (conditions : List Condition)
  | tag (check : TagCheck)
  /-- A clause outside the language, which never holds. -/
  | malformed (flaw : ClauseFlaw)
  deriving Repr, Inhabited

/-- Which element's markup and text are extracted from a page. -/
structure Extraction where
  /-- The tag of the element; nothing is extracted without one. -/
  tag : String := ""
  attr : Option String := none
  value : Option String := none
  text : Option String := none
  deriving DecidableEq, Repr, Inhabited

/-- A predicate: pages on which the condition holds are of kind `kind`. -/
structure Predicate where
  condition : Condition
  kind : String
  extraction : Option Extraction
  deriving Repr, Inhabited

/-- A detection rule. -/
inductive Rule where
  /-- Alternatives, of which the first that matches counts. -/
  | oneOf (rules : List Rule)
  | predicate (predicate : Predicate)
  /-- A clause outside the language, which never matches. -/
  | malformed (flaw : ClauseFlaw)
  deriving Repr, Inhabited

end Prospector
