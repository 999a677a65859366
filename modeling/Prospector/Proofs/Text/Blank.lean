import Mathlib.Data.List.Infix
import Mathlib.Data.List.TakeWhile
import Prospector.Text.Blank

/-!
# Words and blanks

A text is made up of its words and of the blanks before, between and behind them. There is only one
way to see a text so, whatever blanks it has; so its words are the same when they are put one space
apart. Trimming takes blanks away at the two ends, and nothing that begins and ends otherwise is
touched by that; what it leaves is the only such text that blanks at the two ends make the given
one.

## Main definitions

* `Text.IsWord` : whether characters are those of a word.
* `Text.Spelled`, `Text.Spells` : whether a text is made up of the given words and of blanks.
* `Text.IsTrimmed` : whether characters neither begin nor end with a blank.
* `Text.IsGap` : whether a text holds nothing but blanks.

## Main results

* `Text.spells_iff` : the words of a text are those that it is made up of.
* `Text.words_singleSpaced` : putting words one space apart keeps them.
* `Text.infix_trim_iff` : what neither begins nor ends with a blank is found in the trimmed text.
* `Text.trim_eq_iff` : what trimming leaves, without the way in which it is found.
* `Text.trim_append_gaps` : blanks at the two ends do not show in the trimmed text.
-/

namespace Prospector.Text

/-! ## Words -/

/-- A word has at least one character, and no blank among them. -/
structure IsWord (w : List Char) : Prop where
  ne_nil : w ≠ []
  solid : ∀ c ∈ w, isBlank c = false

/-- Characters are made up of the given words if these stand among them in order, apart from each
other, and all else is blank. -/
inductive Spelled : List (List Char) → List Char → Prop
  | blank {gap : List Char} : (∀ c ∈ gap, isBlank c = true) → Spelled [] gap
  | word {gap w rest : List Char} {ws : List (List Char)} : (∀ c ∈ gap, isBlank c = true) →
      IsWord w → (∀ c ∈ rest.head?, isBlank c = true) → Spelled ws rest →
      Spelled (w :: ws) (gap ++ (w ++ rest))

/-- A text is made up of the given words. -/
def Spells (ws : List String) (s : String) : Prop :=
  Spelled (ws.map String.toList) s.toList

theorem Spelled.isWord {ws : List (List Char)} {cs : List Char} (h : Spelled ws cs) :
    ∀ w ∈ ws, IsWord w := by
  induction h with
  | blank _ => simp
  | word _ hw _ _ ih => exact List.forall_mem_cons.2 ⟨hw, ih⟩

/-- A blank in front of a text makes no other words. -/
theorem Spelled.cons_blank {ws : List (List Char)} {c : Char} {cs : List Char}
    (hc : isBlank c = true) (h : Spelled ws cs) : Spelled ws (c :: cs) := by
  cases h with
  | blank hgap => exact .blank (List.forall_mem_cons.2 ⟨hc, hgap⟩)
  | @word gap w rest ws hgap hw hrest h =>
      show Spelled (w :: ws) ((c :: gap) ++ (w ++ rest))
      exact .word (List.forall_mem_cons.2 ⟨hc, hgap⟩) hw hrest h

/-- A text may begin with its first word. -/
theorem Spelled.cons_word {ws : List (List Char)} {w rest : List Char} (hw : IsWord w)
    (hrest : ∀ c ∈ rest.head?, isBlank c = true) (h : Spelled ws rest) :
    Spelled (w :: ws) (w ++ rest) := by
  rw [← List.nil_append (w ++ rest)]
  exact .word (by simp) hw hrest h

/-! ## The words of a text -/

theorem wordsFrom_gap {gap : List Char} (hgap : ∀ c ∈ gap, isBlank c = true) (cs : List Char) :
    wordsFrom [] (gap ++ cs) = wordsFrom [] cs := by
  induction gap with
  | nil => rfl
  | cons c gap ih =>
      have hc : isBlank c = true := hgap c (by simp)
      have hrest : ∀ c ∈ gap, isBlank c = true := fun d hd => hgap d (by simp [hd])
      rw [List.cons_append, wordsFrom, if_pos hc]
      exact ih hrest

theorem wordsFrom_solid {w : List Char} (hw : ∀ c ∈ w, isBlank c = false) (run cs : List Char) :
    wordsFrom run (w ++ cs) = wordsFrom (w.reverse ++ run) cs := by
  induction w generalizing run with
  | nil => rfl
  | cons c w ih =>
      have hc : ¬isBlank c = true := by simp [hw c (by simp)]
      have hrest : ∀ c ∈ w, isBlank c = false := fun d hd => hw d (by simp [hd])
      rw [List.cons_append, wordsFrom, if_neg hc, ih hrest]
      simp

/-- A word ends where a blank or nothing follows. -/
theorem wordsFrom_of_ne_nil {run rest : List Char} (hrun : run ≠ [])
    (hrest : ∀ c ∈ rest.head?, isBlank c = true) :
    wordsFrom run rest = run.reverse :: wordsFrom [] rest := by
  cases rest with
  | nil => simp [wordsFrom, hrun]
  | cons c rest =>
      have hc : isBlank c = true := hrest c (by simp)
      simp [wordsFrom, hrun, hc]

theorem wordsFrom_of_spelled {ws : List (List Char)} {cs : List Char} (h : Spelled ws cs) :
    wordsFrom [] cs = ws := by
  induction h with
  | @blank gap hgap =>
      have hwords := wordsFrom_gap hgap []
      rwa [List.append_nil] at hwords
  | @word gap w rest ws hgap hw hrest _ ih =>
      have hne : w.reverse ++ [] ≠ [] := by simpa using hw.ne_nil
      rw [wordsFrom_gap hgap, wordsFrom_solid hw.solid, wordsFrom_of_ne_nil hne hrest, ih]
      simp

theorem isWord_reverse {run : List Char} (hne : run ≠ [])
    (hrun : ∀ c ∈ run, isBlank c = false) : IsWord run.reverse where
  ne_nil := by simpa using hne
  solid := by simpa using hrun

/-- Every text is made up of its words. Of the first one some characters may have been read. -/
theorem spelled_wordsFrom (cs run : List Char) (hrun : ∀ c ∈ run, isBlank c = false) :
    Spelled (wordsFrom run cs) (run.reverse ++ cs) := by
  induction cs generalizing run with
  | nil =>
      by_cases hempty : run = []
      · subst hempty
        exact .blank (by simp)
      · rw [wordsFrom_of_ne_nil hempty (by simp)]
        exact .cons_word (isWord_reverse hempty hrun) (by simp) (.blank (by simp))
  | cons c cs ih =>
      by_cases hc : isBlank c = true
      · have hrest : Spelled (wordsFrom [] (c :: cs)) (c :: cs) := by
          rw [wordsFrom, if_pos hc]
          exact .cons_blank hc (ih [] (by simp))
        by_cases hempty : run = []
        · subst hempty
          exact hrest
        · have hhead : ∀ d ∈ (c :: cs).head?, isBlank d = true := by simpa using hc
          rw [wordsFrom_of_ne_nil hempty hhead]
          exact .cons_word (isWord_reverse hempty hrun) hhead hrest
      · have hlonger : ∀ d ∈ c :: run, isBlank d = false :=
          List.forall_mem_cons.2 ⟨by simpa using hc, hrun⟩
        have hmore := ih (c :: run) hlonger
        rw [wordsFrom, if_neg hc]
        simpa using hmore

/-- The words of a text are those that it is made up of. -/
theorem spells_iff {ws : List String} {s : String} : Spells ws s ↔ words s = ws := by
  have htexts : ∀ ws : List String, (ws.map String.toList).map String.ofList = ws := by
    simp [Function.comp_def]
  constructor
  · intro h
    rw [words, wordsFrom_of_spelled h, htexts]
  · intro h
    have hchars : ws.map String.toList = wordsFrom [] s.toList := by
      rw [← h, words]
      simp [Function.comp_def]
    rw [Spells, hchars]
    exact spelled_wordsFrom s.toList [] (by simp)

/-- Words put one space apart are the words of the text that they make. -/
theorem spelled_intercalate {ws : List (List Char)} (h : ∀ w ∈ ws, IsWord w) :
    Spelled ws ([' '].intercalate ws) := by
  induction ws with
  | nil => exact .blank (by simp)
  | cons w rest ih =>
      have hw : IsWord w := h w (by simp)
      have hrest := ih fun v hv => h v (by simp [hv])
      cases rest with
      | nil =>
          have hsingle : Spelled [w] (w ++ []) := .cons_word hw (by simp) (.blank (by simp))
          rw [List.append_nil] at hsingle
          rw [List.intercalate_singleton]
          exact hsingle
      | cons v rest =>
          have hspace : isBlank ' ' = true := by decide
          rw [List.intercalate_cons_cons, List.append_assoc]
          exact .cons_word hw (by simpa using hspace) (.cons_blank hspace hrest)

/-- Putting the words of a text one space apart keeps them. -/
theorem words_singleSpaced (s : String) : words (singleSpaced s) = words s := by
  have hspells : Spells (words s) s := spells_iff.2 rfl
  rw [← spells_iff, Spells, singleSpaced, String.toList_intercalate]
  exact spelled_intercalate hspells.isWord

/-! ## Trimmed texts -/

/-- What does not begin with a blank stands behind the blanks at the start. -/
theorem infix_of_infix_blank_append {part front cs : List Char}
    (hpart : ∀ c ∈ part.head?, isBlank c = false) (hfront : ∀ c ∈ front, isBlank c = true)
    (h : part <:+: front ++ cs) : part <:+: cs := by
  induction front with
  | nil => exact h
  | cons c front ih =>
      have hc : isBlank c = true := hfront c (by simp)
      have hrest : ∀ c ∈ front, isBlank c = true := fun d hd => hfront d (by simp [hd])
      rcases List.infix_cons_iff.1 h with hprefix | hinfix
      · cases part with
        | nil => exact List.nil_infix
        | cons d part =>
            have hsolid : isBlank d = false := hpart d (by simp)
            rw [(List.cons_prefix_cons.1 hprefix).1, hc] at hsolid
            cases hsolid
      · exact ih hrest hinfix

theorem exists_trimStart (cs : List Char) :
    ∃ front, (∀ c ∈ front, isBlank c = true) ∧ cs = front ++ trimStart cs := by
  refine ⟨cs.takeWhile isBlank, fun c hc => List.mem_takeWhile_imp hc, ?_⟩
  exact (List.takeWhile_append_dropWhile (p := isBlank) (l := cs)).symm

theorem trimEnd_eq (cs : List Char) : trimEnd cs = (trimStart cs.reverse).reverse := rfl

/-- Trimming takes blanks away at the two ends. -/
theorem exists_trim (s : String) :
    ∃ front back, (∀ c ∈ front, isBlank c = true) ∧ (∀ c ∈ back, isBlank c = true) ∧
      s.toList = front ++ ((trim s).toList ++ back) := by
  obtain ⟨front, hfront, hstart⟩ := exists_trimStart s.toList
  obtain ⟨back, hback, hend⟩ := exists_trimStart (trimStart s.toList).reverse
  refine ⟨front, back.reverse, hfront, by simpa using hback, ?_⟩
  have htrim : (trim s).toList = (trimStart (trimStart s.toList).reverse).reverse := by
    rw [trim, String.toList_ofList, trimEnd_eq]
  rw [htrim, ← List.reverse_append, ← hend, List.reverse_reverse]
  exact hstart

/-- A text is empty when it is trimmed just if all of it is blank. -/
theorem trim_eq_empty_iff {s : String} : trim s = "" ↔ ∀ c ∈ s.toList, isBlank c = true := by
  rw [← String.toList_eq_nil_iff, trim, String.toList_ofList, trimEnd_eq, List.reverse_eq_nil_iff,
    trimStart, List.dropWhile_eq_nil_iff, trimStart]
  simp only [List.mem_reverse]
  constructor
  · intro h c hc
    by_contra hsolid
    have hne : s.toList.dropWhile isBlank ≠ [] := by
      intro hnil
      exact hsolid (List.dropWhile_eq_nil_iff.1 hnil c hc)
    have hhead := List.head_dropWhile_not isBlank hne
    rw [h _ (List.head_mem hne)] at hhead
    cases hhead
  · intro h c hc
    exact h c ((List.dropWhile_suffix isBlank).subset hc)

theorem infix_of_infix_trim {part : List Char} {s : String} (h : part <:+: (trim s).toList) :
    part <:+: s.toList := by
  obtain ⟨front, back, -, -, hs⟩ := exists_trim s
  rw [hs]
  exact h.trans (List.infix_append' _ _ _)

/-- Characters that neither begin nor end with a blank. -/
structure IsTrimmed (cs : List Char) : Prop where
  head : ∀ c ∈ cs.head?, isBlank c = false
  last : ∀ c ∈ cs.getLast?, isBlank c = false

/-- What neither begins nor ends with a blank stands in a text just if it stands in it trimmed. -/
theorem infix_trim_iff {part : List Char} {s : String} (hpart : IsTrimmed part) :
    part <:+: (trim s).toList ↔ part <:+: s.toList := by
  constructor
  · exact infix_of_infix_trim
  · intro h
    obtain ⟨front, back, hfront, hback, hs⟩ := exists_trim s
    rw [hs] at h
    have hmiddle := infix_of_infix_blank_append hpart.head hfront h
    -- the blanks at the end are those at the start of the reversed text
    rw [← List.reverse_infix, List.reverse_append] at hmiddle
    have hhead : ∀ c ∈ part.reverse.head?, isBlank c = false := by simpa using hpart.last
    have hback' : ∀ c ∈ back.reverse, isBlank c = true := by simpa using hback
    exact List.reverse_infix.1 (infix_of_infix_blank_append hhead hback' hmiddle)

/-! ## What trimming leaves -/

theorem head?_trimStart (cs : List Char) : ∀ c ∈ (trimStart cs).head?, isBlank c = false := by
  intro c hc
  have hhead := List.head?_dropWhile_not isBlank cs
  rw [← trimStart, Option.mem_def.1 hc] at hhead
  exact hhead

/-- Blanks at the start are left out, and nothing behind them is. -/
theorem trimStart_append {front cs : List Char} (hfront : ∀ c ∈ front, isBlank c = true)
    (hcs : ∀ c ∈ cs.head?, isBlank c = false) : trimStart (front ++ cs) = cs := by
  rw [trimStart, List.dropWhile_append_of_pos hfront]
  cases cs with
  | nil => rfl
  | cons c cs =>
      have hc : isBlank c = false := hcs c rfl
      simp [hc]

theorem isTrimmed_trim (s : String) : IsTrimmed (trim s).toList := by
  have htrim : (trim s).toList = trimEnd (trimStart s.toList) := by
    rw [trim, String.toList_ofList]
  rw [htrim, trimEnd_eq]
  constructor
  · intro c hc
    -- what is left begins as it did before the blanks at its end were taken away
    obtain ⟨back, -, hend⟩ := exists_trimStart (trimStart s.toList).reverse
    apply head?_trimStart s.toList
    rw [← List.reverse_reverse (trimStart s.toList), hend, List.reverse_append, List.head?_append,
      Option.mem_def.1 hc]
    rfl
  · rw [List.getLast?_reverse]
    exact head?_trimStart _

/-- Trimming leaves the one text that neither begins nor ends with a blank and makes the given text
together with blanks at its two ends. -/
theorem trim_eq_iff {s t : String} :
    trim s = t ↔ IsTrimmed t.toList ∧ ∃ front back, (∀ c ∈ front, isBlank c = true) ∧
      (∀ c ∈ back, isBlank c = true) ∧ s.toList = front ++ (t.toList ++ back) := by
  constructor
  · rintro rfl
    exact ⟨isTrimmed_trim s, exists_trim s⟩
  · rintro ⟨ht, front, back, hfront, hback, hs⟩
    by_cases hempty : t = ""
    · subst hempty
      rw [trim_eq_empty_iff, hs]
      simpa [or_imp, forall_and] using ⟨hfront, hback⟩
    · have hne : t.toList ≠ [] := by simpa using hempty
      have hhead : ∀ c ∈ (t.toList ++ back).head?, isBlank c = false := by
        rw [List.head?_append_of_ne_nil _ hne]
        exact ht.head
      have hback' : ∀ c ∈ back.reverse, isBlank c = true := by simpa using hback
      have hlast : ∀ c ∈ t.toList.reverse.head?, isBlank c = false := by simpa using ht.last
      rw [trim, hs, trimStart_append hfront hhead, trimEnd_eq, List.reverse_append,
        trimStart_append hback' hlast, List.reverse_reverse, String.ofList_toList]

/-- A text that holds nothing but blanks, if anything. -/
def IsGap (s : String) : Prop :=
  ∀ c ∈ s.toList, isBlank c = true

instance (s : String) : Decidable (IsGap s) :=
  decidable_of_iff (s.toList.all isBlank = true) List.all_eq_true

theorem isGap_append_iff {s t : String} : IsGap (s ++ t) ↔ IsGap s ∧ IsGap t := by
  simp [IsGap, or_imp, forall_and]

/-- Blanks at the two ends do not show in the trimmed text. -/
theorem trim_append_gaps {front s back : String} (hfront : IsGap front) (hback : IsGap back) :
    trim (front ++ s ++ back) = trim s := by
  obtain ⟨more, rest, hmore, hrest, hs⟩ := exists_trim s
  refine trim_eq_iff.2 ⟨isTrimmed_trim s, front.toList ++ more, rest ++ back.toList, ?_, ?_, ?_⟩
  · exact List.forall_mem_append.2 ⟨hfront, hmore⟩
  · exact List.forall_mem_append.2 ⟨hrest, hback⟩
  · rw [String.toList_append, String.toList_append, hs]
    simp only [List.append_assoc]

theorem intercalate_ne_nil {sep part : List Char} {rest : List (List Char)} (h : part ≠ []) :
    sep.intercalate (part :: rest) ≠ [] := by
  cases rest with
  | nil => rwa [List.intercalate_singleton]
  | cons next rest =>
      rw [List.intercalate_cons_cons, List.append_assoc]
      exact List.append_ne_nil_of_left_ne_nil h _

/-- Texts that neither begin nor end with a blank make such a text when they are put one space
apart. -/
theorem isTrimmed_intercalate {parts : List (List Char)}
    (h : ∀ part ∈ parts, part ≠ [] ∧ IsTrimmed part) : IsTrimmed ([' '].intercalate parts) := by
  induction parts with
  | nil => exact ⟨by simp, by simp⟩
  | cons part rest ih =>
      obtain ⟨hne, hpart⟩ := h part List.mem_cons_self
      have hrest := ih fun p hp => h p (List.mem_cons_of_mem part hp)
      cases rest with
      | nil => rwa [List.intercalate_singleton]
      | cons next rest =>
          have hnext : [' '].intercalate (next :: rest) ≠ [] :=
            intercalate_ne_nil (h next (by simp)).1
          rw [List.intercalate_cons_cons, List.append_assoc]
          constructor
          · rw [List.head?_append_of_ne_nil _ hne]
            exact hpart.head
          · rw [← List.append_assoc, List.getLast?_append_of_ne_nil _ hnext]
            exact hrest.last

end Prospector.Text
