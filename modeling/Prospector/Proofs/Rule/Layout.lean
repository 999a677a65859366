import Prospector.Html.Printer
import Prospector.Proofs.Rule.Counterpart

/-!
# Text and its layout

The text inside an element comes in chunks, and how these are laid out is of no account: blank
chunks may stand anywhere among the others, and blanks at the two ends of any. What is extracted
from an element is made of the chunks that are left without all that, one space apart. The check for
a text that is not empty does not look at chunks but trims all text inside the element at once, and
yet it tells whether there is something to extract.

## Main definitions

* `Element.LaidOut` : whether chunks are others in another layout.
* `Element.pieces` : chunks without their layout.
* `Html.Node.LaidOut` : whether a node of a parsed document is another one in another layout.

## Main results

* `Element.pieces_eq_of_laidOut` : layout does not show in the pieces.
* `Html.Node.LaidOut.texts` : the texts below a node that is laid out anew are laid out anew.
* `Element.layout_immaterial` : what extracted texts and the check for them have in common.
-/

namespace Prospector

namespace Element

/-! ## Chunks -/

/-- Chunks are laid out anew when gaps are put in anywhere among them, and in front of and behind
any of them. Empty texts are gaps, so a chunk may also stay as it is. -/
inductive LaidOut : List String → List String → Prop
  | nil : LaidOut [] []
  | gap {gap : String} {chunks laid : List String} : Text.IsGap gap → LaidOut chunks laid →
      LaidOut chunks (gap :: laid)
  | chunk {front s back : String} {chunks laid : List String} : Text.IsGap front →
      Text.IsGap back → LaidOut chunks laid → LaidOut (s :: chunks) ((front ++ s ++ back) :: laid)

theorem LaidOut.append {chunks laid more moreLaid : List String} (h : LaidOut chunks laid)
    (hmore : LaidOut more moreLaid) : LaidOut (chunks ++ more) (laid ++ moreLaid) := by
  induction h with
  | nil => exact hmore
  | gap hgap _ ih => exact .gap hgap ih
  | chunk hfront hback _ ih => exact .chunk hfront hback ih

/-- The chunks that are no gaps, trimmed. -/
def pieces (chunks : List String) : List String :=
  (chunks.filter fun s => ¬Text.IsGap s).map Text.trim

theorem pieces_cons_of_gap {s : String} (h : Text.IsGap s) (chunks : List String) :
    pieces (s :: chunks) = pieces chunks := by
  simp [pieces, h]

theorem pieces_cons_of_not_gap {s : String} (h : ¬Text.IsGap s) (chunks : List String) :
    pieces (s :: chunks) = Text.trim s :: pieces chunks := by
  simp [pieces, h]

/-- Layout does not show in the pieces. -/
theorem pieces_eq_of_laidOut {chunks laid : List String} (h : LaidOut chunks laid) :
    pieces laid = pieces chunks := by
  induction h with
  | nil => rfl
  | gap hgap _ ih => rw [pieces_cons_of_gap hgap, ih]
  | @chunk front s back chunks laid hfront hback _ ih =>
      have hgap : Text.IsGap (front ++ s ++ back) ↔ Text.IsGap s := by
        simp [Text.isGap_append_iff, hfront, hback]
      by_cases hs : Text.IsGap s
      · rw [pieces_cons_of_gap (hgap.2 hs), pieces_cons_of_gap hs, ih]
      · rw [pieces_cons_of_not_gap (mt hgap.1 hs), pieces_cons_of_not_gap hs,
          Text.trim_append_gaps hfront hback, ih]

theorem isTrimmed_of_mem_pieces {chunks : List String} {piece : String}
    (h : piece ∈ pieces chunks) : piece.toList ≠ [] ∧ Text.IsTrimmed piece.toList := by
  obtain ⟨s, hs, rfl⟩ := List.mem_map.1 h
  have hgap : ¬Text.IsGap s := by simpa using (List.mem_filter.1 hs).2
  have hne : Text.trim s ≠ "" := mt Text.trim_eq_empty_iff.1 hgap
  exact ⟨by simpa using hne, Text.isTrimmed_trim s⟩

theorem pieces_eq_nil_iff {chunks : List String} :
    pieces chunks = [] ↔ ∀ s ∈ chunks, Text.IsGap s := by
  simp [pieces]

/-! ## Texts -/

/-- To leave blank chunks out before the others are trimmed is the same. -/
theorem normalize_eq (chunks : List String) :
    normalize chunks = " ".intercalate (pieces chunks) := by
  have hfilter : (chunks.filter fun s => !(Text.trim s).isEmpty) =
      chunks.filter fun s => ¬Text.IsGap s := by
    apply List.filter_congr
    intro s _
    have hempty : (Text.trim s).isEmpty = true ↔ Text.IsGap s :=
      String.isEmpty_iff.trans Text.trim_eq_empty_iff
    simp only [← hempty, Bool.not_eq_true, Bool.decide_eq_false]
  rw [normalize, List.filter_map, pieces, ← hfilter]
  rfl

theorem trim_normalize (chunks : List String) :
    Text.trim (normalize chunks) = normalize chunks := by
  have htrimmed : Text.IsTrimmed (normalize chunks).toList := by
    rw [normalize_eq, String.toList_intercalate]
    apply Text.isTrimmed_intercalate
    intro part hpart
    obtain ⟨piece, hpiece, rfl⟩ := List.mem_map.1 hpart
    exact isTrimmed_of_mem_pieces hpiece
  exact Text.trim_eq_iff.2 ⟨htrimmed, [], [], by simp, by simp, by simp⟩

/-- Every piece shows, so nothing is left only if there are no pieces. -/
theorem normalize_eq_empty_iff {chunks : List String} :
    normalize chunks = "" ↔ ∀ s ∈ chunks, Text.IsGap s := by
  rw [normalize_eq, ← pieces_eq_nil_iff, ← String.toList_eq_nil_iff, String.toList_intercalate]
  constructor
  · intro h
    cases hpieces : pieces chunks with
    | nil => rfl
    | cons piece rest =>
        have hpiece : piece ∈ pieces chunks := by simp [hpieces]
        rw [hpieces, List.map_cons] at h
        exact absurd h (Text.intercalate_ne_nil (isTrimmed_of_mem_pieces hpiece).1)
  · intro h
    rw [h]
    rfl

theorem isGap_text_iff (e : Element) : Text.IsGap e.text ↔ ∀ s ∈ e.chunks, Text.IsGap s := by
  simp only [Text.IsGap, text, String.toList_join, List.mem_flatMap]
  constructor
  · intro h s hs c hc
    exact h c ⟨s, hs, hc⟩
  · rintro h c ⟨s, hs, hc⟩
    exact h s hs c hc

/-- Chunk by chunk or as a whole, a text without any layout is empty in the same cases. -/
theorem normalizedText_eq_empty_iff (e : Element) :
    e.normalizedText = "" ↔ Text.trim e.text = "" :=
  calc
    e.normalizedText = "" ↔ ∀ s ∈ e.chunks, Text.IsGap s := normalize_eq_empty_iff
    _ ↔ Text.IsGap e.text := e.isGap_text_iff.symm
    _ ↔ Text.trim e.text = "" := Text.trim_eq_empty_iff.symm

end Element

/-! ## Parsed documents -/

namespace Html.Node

mutual

/-- A node is laid out anew when text nodes that are gaps are put in anywhere below it, and gaps in
front of and behind any text there. -/
inductive LaidOut : Node → Node → Prop
  | element (name : Name) (attrs : List Attr) {children laid : List Node} :
      LaidOutAmong children laid → LaidOut (.element name attrs children) (.element name attrs laid)
  | text {front s back : String} : Text.IsGap front → Text.IsGap back →
      LaidOut (.text s) (.text (front ++ s ++ back))
  | comment (s : String) : LaidOut (.comment s) (.comment s)
  | group {children laid : List Node} :
      LaidOutAmong children laid → LaidOut (.group children) (.group laid)

/-- Nodes that follow each other, laid out anew. -/
inductive LaidOutAmong : List Node → List Node → Prop
  | nil : LaidOutAmong [] []
  | gap {gap : String} {nodes laid : List Node} : Text.IsGap gap → LaidOutAmong nodes laid →
      LaidOutAmong nodes (.text gap :: laid)
  | node {n m : Node} {nodes laid : List Node} : LaidOut n m → LaidOutAmong nodes laid →
      LaidOutAmong (n :: nodes) (m :: laid)

end

mutual

/-- The texts below a node that is laid out anew are laid out anew. -/
theorem LaidOut.texts {n m : Node} : n.LaidOut m → Element.LaidOut n.texts m.texts
  | .element _ _ hchildren => hchildren.texts
  | .text hfront hback => .chunk hfront hback .nil
  | .comment _ => .nil
  | .group hchildren => hchildren.texts

theorem LaidOutAmong.texts {nodes laid : List Node} :
    LaidOutAmong nodes laid → Element.LaidOut (textsAmong nodes) (textsAmong laid)
  | .nil => .nil
  | .gap hgap hrest => .gap hgap hrest.texts
  | .node hn hrest => hn.texts.append hrest.texts

end

end Html.Node

/-! ## Checks for a text -/

/-- An element passes a check for a text that is not empty if it passes the rest of the check and
what is extracted from it has a text. -/
theorem TagCheck.passes_iff_fragment {c : TagCheck} (hc : c.text = some (.nonEmpty true))
    (e : Element) :
    c.passes e = true ↔ ({ c with text := none } : TagCheck).passes e = true ∧
      e.fragment.text ≠ "" := by
  have htext : e.fragment.text = "" ↔ Text.trim e.text = "" := e.normalizedText_eq_empty_iff
  simp [passes, hc, TextCheck.passes, htext, and_assoc]

/-- Of an element, however its text is laid out, in chunks or in a parsed document, the same text is
extracted. That text has no blanks at its ends; it is made of the chunks that are no gaps, trimmed
and one space apart, and it is empty just if all text inside the element, trimmed, is so. A check
for a text that is not empty, whatever else it asks for, thus holds of the element just if its other
parts do and what an extraction makes of the element, should it choose it, has a text. -/
theorem Element.layout_immaterial (e : Element) :
    (∀ laid : Element, LaidOut e.chunks laid.chunks → laid.normalizedText = e.normalizedText) ∧
      (∀ n m : Html.Node, n.toElement = e → n.LaidOut m →
        m.toElement.normalizedText = e.normalizedText) ∧
      Text.trim e.normalizedText = e.normalizedText ∧
      e.normalizedText =
        " ".intercalate ((e.chunks.filter fun s => ¬Text.IsGap s).map Text.trim) ∧
      (e.normalizedText = "" ↔ Text.trim e.text = "") ∧
      (∀ c : TagCheck, c.text = some (.nonEmpty true) →
        (c.passes e = true ↔ ({ c with text := none } : TagCheck).passes e = true ∧
          e.fragment.text ≠ "")) ∧
      ∀ (d : Document) (x : Extraction) (i : Nat), x.tag ≠ "" →
        IsFirst x.Suits (d.elements x.tag) i e → (x.run d).value = some e.fragment := by
  -- both kinds of layout come down to that of chunks
  have hlaid : ∀ chunks, LaidOut e.chunks chunks → normalize chunks = e.normalizedText := by
    intro chunks h
    rw [normalizedText, normalize_eq, normalize_eq, pieces_eq_of_laidOut h]
  refine ⟨fun laid h => hlaid laid.chunks h, ?_, trim_normalize e.chunks, normalize_eq e.chunks,
    e.normalizedText_eq_empty_iff, fun c hc => TagCheck.passes_iff_fragment hc e, ?_⟩
  · rintro n m rfl h
    exact hlaid m.texts h.texts
  · intro d x i htag h
    rw [Extraction.value_run d htag, h.find?_eq x.accepts_iff]
    rfl

/-- Two chunks of a paragraph, one of them inside another element, with line ends, a tab, a wide
space and a space that does not break among and around them. -/
theorem Element.layout_immaterial_widget :
    let paragraph (first second : List Html.Node) : Html.Node :=
      .element { tag := "p" } [] (first ++ [.element { tag := "b" } [] second])
    let n := paragraph [.text "Widget"] [.text "Deluxe"]
    let m := paragraph [.text "\n", .text ("\n  " ++ "Widget" ++ "\u3000")]
      [.text ("\t" ++ "Deluxe" ++ ""), .text "\u00a0"]
    let check : TagCheck := { tag := "p", text := some (.nonEmpty true) }
    let x : Extraction := { tag := "p" }
    n.LaidOut m ∧ LaidOut n.texts m.texts ∧
      m.toElement.normalizedText = n.toElement.normalizedText ∧
      n.toElement.normalizedText = "Widget Deluxe" ∧
      (x.run m.toDocument).value = some m.toElement.fragment ∧ check.passes m.toElement = true := by
  intro paragraph n m check x
  have hn : n.LaidOut m := by
    have hbold : Html.Node.LaidOut (.element { tag := "b" } [] [.text "Deluxe"])
        (.element { tag := "b" } [] [.text ("\t" ++ "Deluxe" ++ ""), .text "\u00a0"]) :=
      .element _ _ (.node (.text (by decide) (by decide)) (.gap (by decide) .nil))
    exact .element _ _ (.gap (by decide) (.node (.text (by decide) (by decide))
      (.node hbold .nil)))
  have hfirst : IsFirst x.Suits (m.toDocument.elements x.tag) 0 m.toElement :=
    ⟨rfl, ⟨nofun, nofun⟩, fun j _ _ _ => Nat.zero_le j⟩
  obtain ⟨hchunks, hnodes, -⟩ := layout_immaterial n.toElement
  obtain ⟨-, -, -, -, -, hcheck, hrun⟩ := layout_immaterial m.toElement
  have hsame : m.toElement.normalizedText = n.toElement.normalizedText := hnodes n m rfl hn
  have htext : n.toElement.normalizedText = "Widget Deluxe" := by decide +kernel
  have hne : m.toElement.fragment.text ≠ "" := by
    show m.toElement.normalizedText ≠ ""
    rw [hchunks m.toElement hn.texts, htext]
    decide
  exact ⟨hn, hn.texts, hsame, htext, hrun m.toDocument x 0 (by decide) hfirst,
    (hcheck check rfl).2 ⟨rfl, hne⟩⟩

end Prospector
