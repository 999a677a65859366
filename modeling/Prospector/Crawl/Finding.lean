import Prospector.Json.Basic
import Prospector.Rule.Evaluation

/-!
# Findings

What a crawl found out about pages: for each address at most one finding, in ascending order of the
addresses. The first finding for an address stays.
-/

namespace Prospector

/-- What was found out about a page. -/
structure Finding where
  isProduct : Bool
  kind : Option String
  text : Option String
  deriving DecidableEq, Repr, Inhabited

namespace Finding

/-- A page with a classification is a product page. -/
def ofClassification (c : Classification) : Finding :=
  { isProduct := true, kind := some c.kind, text := c.text }

/-- A finding from its three members. -/
def ofParts? (isProduct kind text : Option Json) : Option Finding := do
  let isProduct ← isProduct.bind Json.bool?
  let kind ← Json.optionalText? kind
  let text ← Json.optionalText? text
  some { isProduct, kind, text }

/-- A finding from an object, or from an array of its members in order. -/
def ofJson? : Json → Option Finding
  | .object ms =>
    ofParts? (Json.member? "isProduct" ms) (Json.member? "type" ms) (Json.member? "text" ms)
  | .array [isProduct, kind, text] => ofParts? (some isProduct) (some kind) (some text)
  | _ => none

/-- A finding as a JSON value. -/
def toJson (f : Finding) : Json :=
  .ofMembers [("isProduct", .bool f.isProduct), ("type", Json.ofOption (f.kind.map .string)),
    ("text", Json.ofOption (f.text.map .string))]

end Finding

/-- Findings by address, in ascending order. -/
structure Findings where
  byUrl : List (String × Finding) := []
  deriving DecidableEq, Repr, Inhabited

namespace Findings

/-- A list with a finding at its place in the order, unless there is one for the address. -/
def insertNew (url : String) (f : Finding) : List (String × Finding) → List (String × Finding)
  | [] => [(url, f)]
  | (u, g) :: rest =>
    if url = u then (u, g) :: rest
    else if url < u then (url, f) :: (u, g) :: rest
    else (u, g) :: insertNew url f rest

/-- Findings with one more, unless there is one for the address. -/
def add (fs : Findings) (url : String) (f : Finding) : Findings :=
  ⟨insertNew url f fs.byUrl⟩

/-- The finding for an address. -/
def find? (fs : Findings) (url : String) : Option Finding :=
  fs.byUrl.lookup url

/-- The number of findings. -/
def size (fs : Findings) : Nat :=
  fs.byUrl.length

theorem mem_insertNew {url : String} {f : Finding} {m : String × Finding}
    {found : List (String × Finding)} (h : m ∈ insertNew url f found) :
    m = (url, f) ∨ m ∈ found := by
  fun_induction insertNew url f found with
  | case1 => exact .inl (List.mem_singleton.1 h)
  | case2 => exact .inr h
  | case3 => exact List.mem_cons.1 h
  | case4 u g rest _ _ ih =>
      rcases List.mem_cons.1 h with rfl | hrest
      · exact .inr List.mem_cons_self
      · exact (ih hrest).imp_right (List.mem_cons_of_mem _)

/-- Findings with one more hold no others. -/
theorem mem_add {fs : Findings} {url : String} {f : Finding} {m : String × Finding}
    (h : m ∈ (fs.add url f).byUrl) : m = (url, f) ∨ m ∈ fs.byUrl :=
  mem_insertNew h

/-- Findings from a JSON value, its members one finding each. -/
def ofJson? : Json → Option Findings
  | .object members =>
    (members.mapM fun m => (Finding.ofJson? m.2).map fun f => (m.1, f)).map fun found =>
      found.foldl (fun fs m => fs.add m.1 m.2) {}
  | _ => none

/-- Findings as a JSON value. -/
def toJson (fs : Findings) : Json :=
  .ofMembers (fs.byUrl.map fun m => (m.1, m.2.toJson))

end Findings

end Prospector
