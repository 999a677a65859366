import Prospector.Proofs.Rule.Extraction
import Prospector.Proofs.Rule.Meaning

/-!
# Checks and the extractions that go with them

A check of the elements of a tag and an extraction from them may be given the same attribute, value
and part of the text. They are not the same test: the check compares the whole value of an attribute
and searches the trimmed text, an extraction is content with one token of a list and searches the
text as it stands, and an attribute without a value must be absent for the check and is no filter
for the extraction. Still an element that satisfies the check suits the extraction, so what the
check finds the extraction finds too, or something before it. Where none of these differences can
show, both choose the same element.

## Main definitions

* `TagCheck.counterpart` : the extraction with the filters of a check.
* `TagCheck.IsPlain` : whether a check asks for no more than its counterpart can.
* `IsFirst` : the first element with a property, by its index.

## Main results

* `TagCheck.Suits.counterpart`, `TagCheck.IsPlain.suits` : how the two tests are related.
* `TagCheck.counterpart_finds` : how their results are related.
-/

namespace Prospector

/-! ## First elements -/

/-- The element with the given index is the first one with a property. -/
structure IsFirst (P : Element → Prop) (elements : List Element) (i : Nat) (e : Element) :
    Prop where
  stands : elements[i]? = some e
  holds : P e
  first : ∀ j other, elements[j]? = some other → P other → i ≤ j

theorem exists_isFirst {P : Element → Prop} {p : Element → Bool} (hp : ∀ e, p e = true ↔ P e)
    {elements : List Element} {e : Element} (h : elements.find? p = some e) :
    ∃ i, IsFirst P elements i e := by
  obtain ⟨he, i, hi, hget, hbefore⟩ := List.find?_eq_some_iff_getElem.1 h
  refine ⟨i, ?_, (hp e).1 he, ?_⟩
  · rw [List.getElem?_eq_getElem hi, hget]
  · intro j other hother hholds
    by_contra hlt
    obtain ⟨hj, rfl⟩ := List.getElem?_eq_some_iff.1 hother
    have hnot := hbefore j (by omega)
    rw [(hp _).2 hholds] at hnot
    cases hnot

/-- If an element has a property, one is the first to have it, and a search finds that one. -/
theorem exists_isFirst_of_mem {P : Element → Prop} {p : Element → Bool}
    (hp : ∀ e, p e = true ↔ P e) {elements : List Element} {e : Element} (he : e ∈ elements)
    (h : P e) : ∃ i first, IsFirst P elements i first ∧ elements.find? p = some first := by
  have hsome : (elements.find? p).isSome = true := List.find?_isSome.2 ⟨e, he, (hp e).2 h⟩
  obtain ⟨first, hfirst⟩ := Option.isSome_iff_exists.1 hsome
  obtain ⟨i, hi⟩ := exists_isFirst hp hfirst
  exact ⟨i, first, hi, hfirst⟩

/-- A search finds the first element with the property that it looks for. -/
theorem IsFirst.find?_eq {P : Element → Prop} {p : Element → Bool} (hp : ∀ e, p e = true ↔ P e)
    {elements : List Element} {i : Nat} {e : Element} (h : IsFirst P elements i e) :
    elements.find? p = some e := by
  obtain ⟨hi, hget⟩ := List.getElem?_eq_some_iff.1 h.stands
  refine List.find?_eq_some_iff_getElem.2 ⟨(hp e).2 h.holds, i, hi, hget, fun j hj => ?_⟩
  have hother : elements[j]? = some elements[j] := List.getElem?_eq_getElem _
  have hnot : ¬P elements[j] := fun hholds => absurd (h.first j _ hother hholds) (by omega)
  simpa using mt (hp _).1 hnot

/-- An element with more to ask of comes no earlier. -/
theorem IsFirst.le {P Q : Element → Prop} {elements : List Element} {i j : Nat}
    {e other : Element} (h : IsFirst P elements i e) (hother : IsFirst Q elements j other)
    (hsub : ∀ e, Q e → P e) : i ≤ j :=
  h.first j other hother.stands (hsub other hother.holds)

/-! ## Counterparts -/

namespace TagCheck

/-- The extraction from the elements of a check's tag, with the same attribute and value, and with
the part of the text that the check asks for, if it does so. -/
def counterpart (c : TagCheck) : Extraction where
  tag := c.tag
  attr := c.attr
  value := c.value
  text :=
    match c.text with
    | some (.contains part) => some part
    | some (.nonEmpty _) | none => none

theorem text_counterpart_eq_some_iff {c : TagCheck} {part : String} :
    c.counterpart.text = some part ↔ c.text = some (.contains part) := by
  unfold counterpart
  cases c.text with
  | none => simp
  | some check => cases check <;> simp

/-- What satisfies a check suits its counterpart. -/
theorem Suits.counterpart {c : TagCheck} {e : Element} (h : c.Suits e) :
    c.counterpart.Suits e where
  attr := by
    intro name value hname hvalue
    have hattr : e.attr name = c.value := h.attr name hname
    exact .inl (hattr.trans hvalue)
  text := by
    intro part hpart
    have hholds : part.toList <:+: (Text.trim e.text).toList :=
      h.text _ (text_counterpart_eq_some_iff.1 hpart)
    exact Text.infix_of_infix_trim hholds

/-- A check asks for nothing that its counterpart cannot ask for as well: for no content and not for
a text that is not empty, for an attribute only with its value and only if it is no list of tokens,
and for a part of the text only if this neither begins nor ends with a blank. -/
structure IsPlain (c : TagCheck) : Prop where
  content : c.content = none
  text : c.text ≠ some (.nonEmpty true)
  attr : ∀ name, c.attr = some name → c.value ≠ none ∧ isTokenList name = false
  head : ∀ part, c.text = some (.contains part) →
    ∀ ch ∈ part.toList.head?, Text.isBlank ch = false
  last : ∀ part, c.text = some (.contains part) →
    ∀ ch ∈ part.toList.getLast?, Text.isBlank ch = false

/-- What suits the counterpart of a plain check satisfies the check. -/
theorem IsPlain.suits {c : TagCheck} (hplain : c.IsPlain) {e : Element}
    (h : c.counterpart.Suits e) : c.Suits e where
  attr := by
    intro name hname
    obtain ⟨hvalue, hlist⟩ := hplain.attr name hname
    obtain ⟨value, hsome⟩ := Option.ne_none_iff_exists'.1 hvalue
    rcases h.attr name value hname hsome with hattr | htoken
    · rw [hattr, hsome]
    · simp [Element.hasToken, hlist] at htoken
  content := by
    intro expected hexpected
    rw [hplain.content] at hexpected
    cases hexpected
  text := by
    intro check hcheck
    cases check with
    | contains part =>
        have hpart := h.text part (text_counterpart_eq_some_iff.2 hcheck)
        exact (Text.infix_trim_iff ⟨hplain.head part hcheck, hplain.last part hcheck⟩).2 hpart
    | nonEmpty wanted =>
        rintro rfl
        exact absurd hcheck hplain.text

/-- Let a check have a tag and ask for more than the presence of an element. If it holds on a
document, its counterpart finds something there, and the element that it chooses, the first one that
suits it, stands at or before the first one that satisfies the check. If the check is plain and its
counterpart finds something, the check holds, and the element chosen is the first one that satisfies
it. -/
theorem counterpart_finds (d : Document) (c : TagCheck) (htag : c.tag ≠ "")
    (hpresence : c.presence = false) :
    (((Condition.tag c).evaluate d).value = true →
      ∃ i chosen j satisfying, IsFirst c.counterpart.Suits (d.elements c.tag) i chosen ∧
        IsFirst c.Suits (d.elements c.tag) j satisfying ∧ i ≤ j ∧
        (c.counterpart.run d).value = some chosen.fragment) ∧
      (c.IsPlain → ∀ fragment, (c.counterpart.run d).value = some fragment →
        ((Condition.tag c).evaluate d).value = true ∧
          ∃ i chosen, IsFirst c.Suits (d.elements c.tag) i chosen ∧
            fragment = chosen.fragment) := by
  have hrun : (c.counterpart.run d).value =
      ((d.elements c.tag).find? c.counterpart.accepts).map Element.fragment :=
    Extraction.value_run d htag
  have hevaluate : ((Condition.tag c).evaluate d).value = true ↔
      ∃ e ∈ d.elements c.tag, c.Suits e := by
    rw [Condition.value_evaluate_iff, Condition.holds_tag_iff, Holds, hpresence]
    simp
  constructor
  · intro h
    obtain ⟨e, he, hsuits⟩ := hevaluate.1 h
    obtain ⟨j, satisfying, hj, -⟩ := exists_isFirst_of_mem c.passes_iff he hsuits
    obtain ⟨i, chosen, hi, hchosen⟩ :=
      exists_isFirst_of_mem c.counterpart.accepts_iff he hsuits.counterpart
    refine ⟨i, chosen, j, satisfying, hi, hj, hi.le hj fun _ => Suits.counterpart, ?_⟩
    rw [hrun, hchosen]
    rfl
  · intro hplain fragment hfragment
    rw [hrun, Option.map_eq_some_iff] at hfragment
    obtain ⟨chosen, hchosen, rfl⟩ := hfragment
    have hiff : ∀ e, c.counterpart.accepts e = true ↔ c.Suits e := fun e =>
      (c.counterpart.accepts_iff e).trans ⟨hplain.suits, Suits.counterpart⟩
    obtain ⟨i, hi⟩ := exists_isFirst hiff hchosen
    have hmem : chosen ∈ d.elements c.tag := List.mem_of_getElem? hi.stands
    exact ⟨hevaluate.2 ⟨chosen, hmem, hi.holds⟩, i, chosen, hi, rfl⟩

/-- A check that asks for a paragraph without a class is satisfied by the second one only, and its
counterpart chooses the first one. A check that asks for a part of the text is plain, and both agree
on the second one. -/
theorem counterpart_finds_leaflet :
    let bare : TagCheck := { tag := "p", attr := some "class" }
    let named : TagCheck := { tag := "p", text := some (.contains "EUR") }
    let paragraphs := Document.leaflet.elements "p"
    (((Condition.tag bare).evaluate .leaflet).value = true ∧
      ∃ i chosen j satisfying, IsFirst bare.counterpart.Suits paragraphs i chosen ∧
        IsFirst bare.Suits paragraphs j satisfying ∧ i ≤ j ∧
        chosen.fragment = ⟨"<p class=\"price\">soon</p>", "soon"⟩) ∧
      named.IsPlain ∧ ((Condition.tag named).evaluate .leaflet).value = true := by
  intro bare named paragraphs
  have hbare : ((Condition.tag bare).evaluate .leaflet).value = true := by decide +kernel
  have hchosen : (bare.counterpart.run .leaflet).value =
      some ⟨"<p class=\"price\">soon</p>", "soon"⟩ := by
    decide +kernel
  obtain ⟨i, chosen, j, satisfying, hi, hj, hle, hrun⟩ :=
    (counterpart_finds .leaflet bare (by decide) rfl).1 hbare
  have hplain : named.IsPlain := by
    refine ⟨rfl, by decide, nofun, ?_, ?_⟩
    · intro part hpart ch hch
      obtain rfl : "EUR" = part := by simpa [named] using hpart
      obtain rfl : 'E' = ch := by simpa using hch
      decide
    · intro part hpart ch hch
      obtain rfl : "EUR" = part := by simpa [named] using hpart
      obtain rfl : 'R' = ch := by simpa using hch
      decide
  have hfound : (named.counterpart.run .leaflet).value =
      some ⟨"<p>3 <b>EUR</b></p>", "3 EUR"⟩ := by
    decide +kernel
  obtain ⟨hnamed, -⟩ := (counterpart_finds .leaflet named (by decide) rfl).2 hplain _ hfound
  refine ⟨⟨hbare, i, chosen, j, satisfying, hi, hj, hle, ?_⟩, hplain, hnamed⟩
  exact Option.some.inj (hrun.symm.trans hchosen)

end TagCheck

end Prospector
