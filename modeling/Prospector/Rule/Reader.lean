import Prospector.Json.Basic
import Prospector.Rule.Basic

/-!
# Rules written as JSON

Every JSON value reads as a rule; what is no part of the rule language becomes a malformed clause.

A rule is an object with a list of rules under `or`, or else an object with a condition under
`condition` and a string under `type`, to which `extract` may be added. A condition is a list of
conditions, which all have to hold, or an object: with a list under `and`, else with a list under
`or`, else with a string that is not empty under `tag`.
-/

namespace Prospector

/-- The kind of a JSON value. -/
def Json.kind : Json → ValueKind
  | .null => .null
  | .bool _ => .boolean
  | .number _ => .number
  | .string _ => .string
  | .array _ => .list
  | .object _ => .object

/-- The members of an object. -/
abbrev Members := List (String × Json)

/-- A string that may be absent or null. -/
def optionalString (key : String) (members : Members) : Except ClauseFlaw (Option String) :=
  match Json.member? key members with
  | none | some .null => .ok none
  | some (.string s) => .ok (some s)
  | some other => .error (.notString key other.kind)

/-- The tag of a check. -/
def TagCheck.tagOf (members : Members) : Except ClauseFlaw String :=
  match Json.member? "tag" members with
  | some (.string s) => if s.isEmpty then .error .noTag else .ok s
  | none => .error .noTag
  | some other => .error (.notString "tag" other.kind)

/-- The text check of a tag check. -/
def TagCheck.textOf (members : Members) : Except ClauseFlaw (Option TextCheck) :=
  match Json.member? "text_contains" members with
  | none | some .null => .ok none
  | some (.string s) => .ok (some (.contains s))
  | some (.bool b) => .ok (some (.nonEmpty b))
  | some other => .error (.textCheckNotText other.kind)

/-- A tag check. Of several flaws that of the tag counts first, then that of the text check, then
those of attribute, value and content. -/
def TagCheck.ofMembers (members : Members) : Except ClauseFlaw TagCheck := do
  let tag ← tagOf members
  let text ← textOf members
  let attr ← optionalString "attribute" members
  let value ← optionalString "value" members
  let content ← optionalString "content" members
  return {
    tag
    presence := (Json.member? "exists" members).bind Json.bool? == some true
    attr, value, content, text }

mutual

/-- The condition that a value writes. -/
def Condition.ofJson : Json → Condition
  | .array items => .all (conditionList items)
  | .object members =>
    match conditionGroup "and" members with
    | some (some conditions) => .all conditions
    | some none => .malformed (.groupNotList "and")
    | none =>
      match conditionGroup "or" members with
      | some (some conditions) => .any conditions
      | some none => .malformed (.groupNotList "or")
      | none =>
        match TagCheck.ofMembers members with
        | .ok check => .tag check
        | .error flaw => .malformed flaw
  | other => .malformed (.conditionNotGroup other.kind)

/-- The conditions of a list. -/
def conditionList : List Json → List Condition
  | [] => []
  | item :: items => Condition.ofJson item :: conditionList items

/-- The conditions of a value that has to be a list. -/
def conditionItems : Json → Option (List Condition)
  | .array items => some (conditionList items)
  | _ => none

/-- The value under a key, if there is one, read as a list of conditions, if it is one. -/
def conditionGroup (key : String) : List (String × Json) → Option (Option (List Condition))
  | [] => none
  | (k, v) :: rest => if k = key then some (conditionItems v) else conditionGroup key rest

end

/-- A string under a key; a value of another kind counts as absent. -/
def stringOf (key : String) (members : Members) : Option String :=
  (Json.member? key members).bind Json.string?

/-- The extraction that a value writes. It has no flaws: what cannot be used is left out. -/
def Extraction.ofJson : Json → Extraction
  | .object members =>
    { tag := (stringOf "from_tag" members).getD ""
      attr := stringOf "attribute" members
      value := stringOf "value" members
      text := stringOf "text_contains" members }
  | _ => {}

/-- The predicate, or malformed clause, of an object without `or`. -/
def Rule.ofPredicate (members : Members) : Rule :=
  match Json.member? "condition" members, Json.member? "type" members with
  | none, _ => .malformed .noCondition
  | some _, none => .malformed .noType
  | some condition, some (.string kind) =>
    .predicate {
      condition := Condition.ofJson condition
      kind
      extraction := (Json.member? "extract" members).map Extraction.ofJson }
  | some _, some other => .malformed (.typeNotString other.kind)

mutual

/-- The rule that a value writes. -/
def Rule.ofJson : Json → Rule
  | .object members =>
    match alternatives members with
    | some (some rules) => .oneOf rules
    | some none => .malformed .alternativesNotList
    | none => Rule.ofPredicate members
  | other => .malformed (.ruleNotObject other.kind)

/-- The rules of a list. -/
def ruleList : List Json → List Rule
  | [] => []
  | item :: items => Rule.ofJson item :: ruleList items

/-- The rules of a value that has to be a list. -/
def ruleItems : Json → Option (List Rule)
  | .array items => some (ruleList items)
  | _ => none

/-- The value under `or`, if there is one, read as a list of rules, if it is one. -/
def alternatives : List (String × Json) → Option (Option (List Rule))
  | [] => none
  | (key, value) :: rest => if key = "or" then some (ruleItems value) else alternatives rest

end

end Prospector
