import Prospector.Rule.Reader
import Prospector.Settings.Basic

/-!
# Settings from a tree of values

Settings are a table of tables. Every table may also be written as an array of its members in their
order. Members that are not known are passed over; some have a default, the others are required.

## Main definitions

* `Fields.ofJson?` : the members of a table, written either way.
* `Settings.ofJson?` : settings from a value.
-/

namespace Prospector

/-- The members of a table by name. -/
abbrev Fields := String → Option Json

/-- The members of a table with the given names. Written as an array it may lack members at its
end; whether it may have more than there are names depends on `exact`. -/
def Fields.ofJson? (exact : Bool) (names : List String) : Json → Option Fields
  | .object members => some fun name => Json.member? name members
  | .array items =>
    if exact && names.length < items.length then none
    else some fun name => (names.zip items).lookup name
  | _ => none

namespace Fields

/-- A member that has to be there. -/
def required {α : Type} (f : Fields) (name : String) (read : Json → Option α) : Option α :=
  (f name).bind read

/-- A member that has a default. -/
def optional {α : Type} (f : Fields) (name : String) (default : α) (read : Json → Option α) :
    Option α :=
  match f name with
  | some j => read j
  | none => some default

end Fields

/-- A natural number below a bound. -/
def Json.natBelow? (bound : Nat) : Json → Option Nat
  | .number (.int n) => if 0 ≤ n && n.toNat < bound then some n.toNat else none
  | _ => none

/-- A value that may be `null`. -/
def Json.nullable? {α : Type} (read : Json → Option α) : Json → Option (Option α)
  | .null => some none
  | j => (read j).map some

mutual

/-- A value in which numbers that are not finite are replaced by `null`. -/
def Json.withoutInfinities : Json → Json
  | .number (.float x) => if x.isFinite then .number (.float x) else .null
  | .array items => .array (itemsWithoutInfinities items)
  | .object members => .object (membersWithoutInfinities members)
  | j => j

/-- Values in which numbers that are not finite are replaced. -/
def Json.itemsWithoutInfinities : List Json → List Json
  | [] => []
  | j :: js => j.withoutInfinities :: itemsWithoutInfinities js

/-- Members in which numbers that are not finite are replaced. -/
def Json.membersWithoutInfinities : List (String × Json) → List (String × Json)
  | [] => []
  | (key, j) :: ms => (key, j.withoutInfinities) :: membersWithoutInfinities ms

end

/-- A rule from a value of any kind. -/
def Rule.ofSetting (j : Json) : Rule :=
  Rule.ofJson j.withoutInfinities

/-- Bounds and pace from a table. -/
def Pace.ofJson? (exact : Bool) (j : Json) : Option Pace := do
  let f ← Fields.ofJson? exact ["max-pages", "max-depth", "max-workers", "request-timeout-secs",
    "request-delay-ms", "strict-rules"] j
  let standard : Pace := {}
  some {
    maxPages := ← f.optional "max-pages" standard.maxPages (Json.natBelow? (Nat.pow 2 64))
    maxDepth := ← f.optional "max-depth" standard.maxDepth (Json.natBelow? (Nat.pow 2 32))
    maxWorkers := ← f.optional "max-workers" standard.maxWorkers (Json.natBelow? (Nat.pow 2 64))
    timeoutSeconds :=
      ← f.optional "request-timeout-secs" standard.timeoutSeconds (Json.natBelow? (Nat.pow 2 64))
    delayMilliseconds :=
      ← f.optional "request-delay-ms" standard.delayMilliseconds (Json.natBelow? (Nat.pow 2 64))
    strictRules := ← f.optional "strict-rules" standard.strictRules Json.bool? }

/-- An identity from a table. -/
def Identity.ofJson? (exact : Bool) (j : Json) : Option Identity := do
  let f ← Fields.ofJson? exact
    ["crawler-name", "crawler-version", "contact-url", "contact-email"] j
  some {
    name := ← f.required "crawler-name" Json.string?
    version := ← f.required "crawler-version" Json.string?
    url := ← f.required "contact-url" Json.string?
    email := ← f.required "contact-email" Json.string? }

/-- The path of the results from a table. -/
def resultsPathOfJson? (exact : Bool) (j : Json) : Option String := do
  (← Fields.ofJson? exact ["results-path"] j).required "results-path" Json.string?

/-- A source from a table. -/
def Source.ofJson? (exact : Bool) (j : Json) : Option Source := do
  let f ← Fields.ofJson? exact ["name", "root-url", "product-detection", "rules-file"] j
  some {
    name := ← f.required "name" Json.string?
    rootUrl := ← f.required "root-url" Json.string?
    rule := ← f.optional "product-detection" none
      (Json.nullable? fun j => some (Rule.ofSetting j))
    rulesFile := ← f.optional "rules-file" none (Json.nullable? Json.string?) }

/-- Sources from an array. -/
def sourcesOfJson? (exact : Bool) (j : Json) : Option (List Source) := do
  (← j.array?).mapM (Source.ofJson? exact)

/-- Settings from a table; `exact` says whether tables written as arrays may have no more items than
members. -/
def Settings.ofJson? (exact : Bool) (j : Json) : Option Settings := do
  let f ← Fields.ofJson? exact ["crawler", "user-agent", "output", "source"] j
  some {
    pace := ← f.optional "crawler" {} (Pace.ofJson? exact)
    identity := ← f.required "user-agent" (Identity.ofJson? exact)
    resultsPath := ← f.optional "output" defaultResultsPath (resultsPathOfJson? exact)
    sources := ← f.optional "source" [] (sourcesOfJson? exact) }

end Prospector
