import Prospector.Document
import Prospector.Rule.Basic
import Prospector.Text.Occurrence

/-!
# Rules at work

A rule is run on a document from left to right and stops at the first predicate whose condition
holds; groups of conditions stop as soon as their truth is settled. Each run keeps the list of tags
that it asked the document for, in order, which is how that economy can be seen.
-/

namespace Prospector

/-- A result together with the tags that were looked up to find it. -/
structure Traced (α : Type) where
  value : α
  lookups : List String
  deriving Repr, Inhabited, DecidableEq

namespace Traced

/-- A result found without looking anything up. -/
def still {α : Type} (value : α) : Traced α :=
  ⟨value, []⟩

/-- The same lookups with another result. -/
def map {α β : Type} (f : α → β) (t : Traced α) : Traced β :=
  ⟨f t.value, t.lookups⟩

/-- One run after another. -/
def andThen {α β : Type} (t : Traced α) (next : α → Traced β) : Traced β :=
  let u := next t.value
  ⟨u.value, t.lookups ++ u.lookups⟩

@[simp] theorem value_still {α : Type} (a : α) : (still a).value = a := rfl

@[simp] theorem lookups_still {α : Type} (a : α) : (still a).lookups = [] := rfl

@[simp] theorem value_map {α β : Type} (f : α → β) (t : Traced α) :
    (t.map f).value = f t.value := rfl

@[simp] theorem lookups_map {α β : Type} (f : α → β) (t : Traced α) :
    (t.map f).lookups = t.lookups := rfl

@[simp] theorem value_andThen {α β : Type} (t : Traced α) (next : α → Traced β) :
    (t.andThen next).value = (next t.value).value := rfl

@[simp] theorem lookups_andThen {α β : Type} (t : Traced α) (next : α → Traced β) :
    (t.andThen next).lookups = t.lookups ++ (next t.value).lookups := rfl

end Traced

/-- The elements of a tag, looked up. -/
def Document.lookup (d : Document) (tag : String) : Traced (List Element) :=
  ⟨d.elements tag, [tag]⟩

/-! ## Conditions -/

/-- Whether an element's text passes a check. -/
def TextCheck.passes (e : Element) : TextCheck → Bool
  | .contains part => Text.contains (Text.trim e.text) part
  | .nonEmpty wanted => !wanted || !(Text.trim e.text).isEmpty

/-- Whether one element passes all checks of attribute, content and text. -/
def TagCheck.passes (c : TagCheck) (e : Element) : Bool :=
  (match c.attr with
    | some name => e.attr name == c.value
    | none => true) &&
  (match c.content with
    | some expected => e.attr "content" == some expected
    | none => true) &&
  (match c.text with
    | some check => check.passes e
    | none => true)

/-- Whether the elements of a check's tag satisfy it. -/
def TagCheck.satisfiedBy (c : TagCheck) (elements : List Element) : Bool :=
  if c.presence then !elements.isEmpty else elements.any c.passes

mutual

/-- Whether a condition holds on a document. -/
def Condition.evaluate (d : Document) : Condition → Traced Bool
  | .all conditions => evaluateAll d conditions
  | .any conditions => evaluateAny d conditions
  | .tag check => (d.lookup check.tag).map check.satisfiedBy
  | .malformed _ => .still false

/-- Whether all conditions hold; those behind one that does not are not looked at. -/
def evaluateAll (d : Document) : List Condition → Traced Bool
  | [] => .still true
  | c :: rest =>
    (c.evaluate d).andThen fun held => if held then evaluateAll d rest else .still false

/-- Whether one of the conditions holds; those behind it are not looked at. -/
def evaluateAny (d : Document) : List Condition → Traced Bool
  | [] => .still false
  | c :: rest => (c.evaluate d).andThen fun held => if held then .still true else evaluateAny d rest

end

/-! ## Extraction -/

/-- What was extracted from a page. -/
structure Fragment where
  markup : String
  text : String
  deriving DecidableEq, Repr, Inhabited

/-- The fragment that an element makes. -/
def Element.fragment (e : Element) : Fragment :=
  ⟨e.markup, e.normalizedText⟩

/-- Whether an attribute has a value, as a whole or, for a list of tokens, as one of them. -/
def Element.attrMatches (e : Element) (name value : String) : Bool :=
  e.attr name == some value || e.hasToken name value

/-- Whether an extraction may choose an element. The attribute counts only together with a value;
the text is searched as it stands. -/
def Extraction.accepts (x : Extraction) (e : Element) : Bool :=
  (match x.attr, x.value with
    | some name, some value => e.attrMatches name value
    | _, _ => true) &&
  (match x.text with
    | some part => Text.contains e.text part
    | none => true)

/-- The fragment of the first element that an extraction accepts. Without a tag nothing is looked
up. -/
def Extraction.run (d : Document) (x : Extraction) : Traced (Option Fragment) :=
  if x.tag.isEmpty then .still none
  else (d.lookup x.tag).map fun elements => (elements.find? x.accepts).map Element.fragment

/-! ## Classification -/

/-- The kind of a page and what was extracted from it. -/
structure Classification where
  kind : String
  fragment : Option Fragment
  deriving DecidableEq, Repr, Inhabited

/-- The text of the extracted fragment. -/
def Classification.text (c : Classification) : Option String :=
  c.fragment.map Fragment.text

/-- The extraction of a predicate, if it has one. -/
def Predicate.extract (d : Document) (p : Predicate) : Traced (Option Fragment) :=
  match p.extraction with
  | some x => x.run d
  | none => .still none

/-- The classification of a document by a predicate. -/
def Predicate.classify (d : Document) (p : Predicate) : Traced (Option Classification) :=
  (p.condition.evaluate d).andThen fun held =>
    if held then (p.extract d).map fun fragment => some ⟨p.kind, fragment⟩ else .still none

mutual

/-- The classification of a document by a rule: that of the first predicate that matches. -/
def Rule.classify (d : Document) : Rule → Traced (Option Classification)
  | .oneOf rules => classifyFirst d rules
  | .predicate p => p.classify d
  | .malformed _ => .still none

/-- The first classification by one of the rules; those behind it are not looked at. -/
def classifyFirst (d : Document) : List Rule → Traced (Option Classification)
  | [] => .still none
  | r :: rest => (r.classify d).andThen fun found =>
    match found with
    | some c => .still (some c)
    | none => classifyFirst d rest

end

end Prospector
