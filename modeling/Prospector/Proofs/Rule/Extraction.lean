import Prospector.Html.Printer
import Prospector.Proofs.Html.Place
import Prospector.Proofs.Text.Blank
import Prospector.Proofs.Text.Utf8
import Prospector.Rule.Evaluation

/-!
# What extractions find

An extraction goes through the elements of its tag and takes the first one that passes both of its
filters. What a filter asks for is said here of the nodes of a parsed document: that the text inside
an element, as it stands, contains a part, and that an attribute, as it stands in the markup, has a
value. The value of a list of tokens is any one of these, or all of them one space apart, however
many blanks of whatever kind there are between them in the markup.

## Main definitions

* `Extraction.Suits` : what an extraction asks of an element of its tag.
* `Node.HasValue` : what it means for an attribute in the markup to have a value.
* `Extraction.Qualifies` : what an extraction asks of a node of a parsed document.

## Main results

* `Extraction.value_run` : what an extraction finds is made of the first element that suits it.
* `Extraction.finds_first` : it is made of the first node in document order that qualifies.
-/

namespace Prospector

/-! ## Elements -/

/-- What an extraction asks of an element of its tag. The attribute counts only if it is given
together with a value. -/
structure Extraction.Suits (x : Extraction) (e : Element) : Prop where
  attr : ∀ name value, x.attr = some name → x.value = some value →
    e.attr name = some value ∨ e.hasToken name value = true
  text : ∀ part, x.text = some part → part.toList <:+: e.text.toList

theorem Extraction.accepts_iff (x : Extraction) (e : Element) :
    x.accepts e = true ↔ x.Suits e := by
  obtain ⟨tag, attr, value, text⟩ := x
  rw [accepts, Bool.and_eq_true]
  constructor
  · rintro ⟨hattr, htext⟩
    constructor
    · rintro name v (rfl : attr = some name) (rfl : value = some v)
      simpa [Element.attrMatches] using hattr
    · rintro part (rfl : text = some part)
      exact Text.occursIn_iff.1 htext
  · rintro ⟨hattr, htext⟩
    constructor
    · cases attr with
      | none => rfl
      | some name =>
          cases value with
          | none => rfl
          | some v => simpa [Element.attrMatches] using hattr name v rfl rfl
    · cases text with
      | none => rfl
      | some part => exact Text.occursIn_iff.2 (htext part rfl)

/-- What an extraction finds is made of the first element that suits it. -/
theorem Extraction.value_run (d : Document) {x : Extraction} (htag : x.tag ≠ "") :
    (x.run d).value = ((d.elements x.tag).find? x.accepts).map Element.fragment := by
  have hempty : ¬x.tag.isEmpty = true := by simpa using htag
  rw [run, if_neg hempty]
  rfl

/-! ## Attributes in the markup -/

namespace Html.Node

/-- An attribute has a value if that is what stands in the markup. If it is a list of tokens, one of
these is enough, and so are all of them one space apart. -/
def HasValue (n : Node) (name value : String) : Prop :=
  ∃ source, n.rawAttr name = some source ∧
    if isTokenList name then
      ∃ tokens, Text.Spells tokens source ∧ (value ∈ tokens ∨ value = " ".intercalate tokens)
    else value = source

/-- No token is lost or made when the tokens of a list are put one space apart. -/
theorem hasToken_toElement {n : Node} {name value source : String}
    (hlist : isTokenList name = true) (hsource : n.rawAttr name = some source) :
    n.toElement.hasToken name value = true ↔ value ∈ Text.words source := by
  have hattr : n.toElement.attr name = some (Text.singleSpaced source) := by
    simp [toElement, attr, hsource, hlist]
  rw [Element.hasToken, hlist, hattr]
  simp [Text.words_singleSpaced]

theorem hasValue_iff (n : Node) (name value : String) :
    n.toElement.attr name = some value ∨ n.toElement.hasToken name value = true ↔
      n.HasValue name value := by
  cases hsource : n.rawAttr name with
  | none =>
      have hattr : n.toElement.attr name = none := by simp [toElement, attr, hsource]
      simp [HasValue, Element.hasToken, hsource, hattr]
  | some source =>
      by_cases hlist : isTokenList name = true
      · have hattr : n.toElement.attr name = some (Text.singleSpaced source) := by
          simp [toElement, attr, hsource, hlist]
        rw [hasToken_toElement hlist hsource, hattr]
        simp only [HasValue, hsource, hlist, if_true, Text.spells_iff, Option.some.injEq,
          exists_eq_left']
        rw [Text.singleSpaced, or_comm, eq_comm]
      · have hattr : n.toElement.attr name = some source := by
          simp [toElement, attr, hsource, hlist]
        simp [HasValue, Element.hasToken, hsource, hattr, hlist, eq_comm]

end Html.Node

/-! ## Parsed documents -/

/-- What an extraction asks of a node of a parsed document: to be an element of the tag, with the
value if both an attribute and a value are given, and with the part of the text if one is given. -/
structure Extraction.Qualifies (x : Extraction) (n : Html.Node) : Prop where
  tag : n.tag? = some x.tag
  value : ∀ name value, x.attr = some name → x.value = some value → n.HasValue name value
  text : ∀ part, x.text = some part → part.toList <:+: (String.join n.texts).toList

theorem Extraction.qualifies_iff (x : Extraction) (n : Html.Node) :
    x.Qualifies n ↔ n.tag? = some x.tag ∧ x.accepts n.toElement = true := by
  rw [accepts_iff]
  constructor
  · intro h
    refine ⟨h.tag, fun name value hname hvalue => ?_, h.text⟩
    exact (n.hasValue_iff name value).2 (h.value name value hname hvalue)
  · rintro ⟨htag, h⟩
    refine ⟨htag, fun name value hname hvalue => ?_, h.text⟩
    exact (n.hasValue_iff name value).1 (h.attr name value hname hvalue)

/-- An extraction with a tag, run on a parsed document, whatever its tree of nodes, finds the markup
and the text, without regard to layout, of the node that comes first in document order among those
that qualify; it finds nothing just if no node qualifies. -/
theorem Extraction.finds_first (root : Html.Node) (x : Extraction) (htag : x.tag ≠ "") :
    (∀ fragment, (x.run root.toDocument).value = some fragment ↔
      ∃ place n, root.FirstAt x.Qualifies place n ∧
        fragment = ⟨n.markup, Element.normalize n.texts⟩) ∧
      ((x.run root.toDocument).value = none ↔
        ∀ place n, root.at? place = some n → ¬x.Qualifies n) := by
  have hvalue : (x.run root.toDocument).value =
      ((root.elementsOf x.tag).find? fun n => x.accepts n.toElement).map
        fun n => n.toElement.fragment := by
    rw [value_run _ htag]
    show (((root.elementsOf x.tag).map Html.Node.toElement).find? x.accepts).map _ = _
    rw [List.find?_map, Option.map_map]
    rfl
  have hqualifies : x.Qualifies = fun n => n.tag? = some x.tag ∧ x.accepts n.toElement = true :=
    funext fun n => propext (x.qualifies_iff n)
  constructor
  · intro fragment
    rw [hvalue, Option.map_eq_some_iff, hqualifies]
    constructor
    · rintro ⟨n, hfound, rfl⟩
      obtain ⟨place, hfirst⟩ := Html.Node.find?_elementsOf_iff.1 hfound
      exact ⟨place, n, hfirst, rfl⟩
    · rintro ⟨place, n, hfirst, rfl⟩
      exact ⟨n, Html.Node.find?_elementsOf_iff.2 ⟨place, hfirst⟩, rfl⟩
  · rw [hvalue, Option.map_eq_none_iff, List.find?_eq_none]
    constructor
    · intro hnone place n hstands hn
      rw [qualifies_iff] at hn
      exact hnone n (Html.Node.mem_elementsOf_iff.2 ⟨place, hstands, hn.1⟩) hn.2
    · intro hnone n hmem haccepts
      obtain ⟨place, hstands, hn⟩ := Html.Node.mem_elementsOf_iff.1 hmem
      exact hnone place n hstands ((x.qualifies_iff n).2 ⟨hn, haccepts⟩)

/-- The second paragraph is the first one with the token; that it is no child of the first one, and
that the token stands between a tab and a wide space, makes no difference. -/
theorem Extraction.finds_first_price :
    let root := Html.Node.parse
      "<p class=old>1<div><p class='old\tprice\u3000'> 3 <b>EUR</b></div><p class=price>5 EUR"
    let x : Extraction :=
      { tag := "p", attr := some "class", value := some "price", text := some "EUR" }
    x.tag ≠ "" ∧ ∃ place n, root.FirstAt x.Qualifies place n ∧
      n.markup = "<p class=\"old\tprice\u3000\"> 3 <b>EUR</b></p>" ∧
      Element.normalize n.texts = "3 EUR" := by
  intro root x
  have htag : x.tag ≠ "" := by decide
  have hvalue : (x.run root.toDocument).value =
      some ⟨"<p class=\"old\tprice\u3000\"> 3 <b>EUR</b></p>", "3 EUR"⟩ := by
    decide +kernel
  obtain ⟨hfound, -⟩ := finds_first root x htag
  obtain ⟨place, n, hfirst, heq⟩ := (hfound _).1 hvalue
  obtain ⟨hmarkup, htext⟩ := Fragment.mk.inj heq
  exact ⟨htag, place, n, hfirst, hmarkup.symm, htext.symm⟩

end Prospector
