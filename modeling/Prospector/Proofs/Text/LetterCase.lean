import Prospector.Proofs.Text.Utf8

/-!
# Parts of texts in lower case

The form of a capital sigma depends on what stands around it, that of any other letter does not. So
a part without capital sigmas is in lower case what it is in the whole, and ASCII letters can be
made small beforehand. A capital sigma at the end of a part is a different one in the whole if it
ends a word in the part alone.

## Main definitions

* `Text.CutsWord` : whether a word goes on behind a capital sigma at the end of a part.

## Main results

* `Text.lowerFrom_infix` : a part of a text without capital sigmas is a part of it in lower case.
* `Text.lowerFrom_infix_of_not_cutsWord` : so is a part with some that ends where no word is cut.
* `Text.lowerFrom_map_lowerAscii` : lower case does not depend on the case of ASCII letters.
-/

namespace Prospector.Text

/-! ## The case of ASCII letters -/

theorem lowerChar_lowerAscii (c : Char) : lowerChar (lowerAscii c) = lowerChar c :=
  lowerAscii_congr (by decide) c

theorem isCased_lowerAscii (c : Char) : isCased (lowerAscii c) = isCased c :=
  lowerAscii_congr (by decide) c

theorem isCaseIgnorable_lowerAscii (c : Char) :
    isCaseIgnorable (lowerAscii c) = isCaseIgnorable c :=
  lowerAscii_congr (by decide) c

theorem lowerAscii_eq_sigma (c : Char) : lowerAscii c = 'Σ' ↔ c = 'Σ' := by
  have h := lowerAscii_congr (f := fun c => c == 'Σ') (by decide) c
  rw [← beq_iff_eq, h, beq_iff_eq]

theorem beginsWithLetter_map_lowerAscii (cs : List Char) :
    beginsWithLetter (cs.map lowerAscii) = beginsWithLetter cs := by
  induction cs with
  | nil => rfl
  | cons c cs ih =>
      rw [List.map_cons, beginsWithLetter, beginsWithLetter, ih, isCased_lowerAscii,
        isCaseIgnorable_lowerAscii]

/-- Lower case does not depend on the case of ASCII letters. -/
theorem lowerFrom_map_lowerAscii (inWord : Bool) (cs : List Char) :
    lowerFrom inWord (cs.map lowerAscii) = lowerFrom inWord cs := by
  induction cs generalizing inWord with
  | nil => rfl
  | cons c cs ih =>
      simp only [List.map_cons, lowerFrom, ih, lowerAscii_eq_sigma, lowerChar_lowerAscii,
        isCased_lowerAscii, isCaseIgnorable_lowerAscii, beginsWithLetter_map_lowerAscii]

/-- ASCII text is made small letter by letter. -/
theorem lowerFrom_of_ascii {cs : List Char} (h : ∀ c ∈ cs, c.toNat < 128) (inWord : Bool) :
    lowerFrom inWord cs = cs.map lowerAscii := by
  induction cs generalizing inWord with
  | nil => rfl
  | cons c cs ih =>
      have hc := h c List.mem_cons_self
      have hsigma : c ≠ 'Σ' := by
        rintro rfl
        exact absurd hc (by decide)
      rw [lowerFrom, ih fun d hd => h d (List.mem_cons_of_mem c hd)]
      simp only [hsigma, if_false, lowerChar, hc, if_true]
      rfl

theorem lower_of_ascii {s : String} (h : ∀ c ∈ s.toList, c.toNat < 128) :
    (lower s).toList = s.toList.map lowerAscii := by
  rw [lower, String.toList_ofList, lowerFrom_of_ascii h]

/-! ## Parts -/

/-- What follows in a text is made small by itself. -/
theorem exists_lowerFrom_append (inWord : Bool) (cs ds : List Char) :
    ∃ front inWord', lowerFrom inWord (cs ++ ds) = front ++ lowerFrom inWord' ds := by
  induction cs generalizing inWord with
  | nil => exact ⟨[], inWord, rfl⟩
  | cons c cs ih =>
      obtain ⟨front, inWord', hfront⟩ := ih (if isCaseIgnorable c then inWord else isCased c)
      rw [List.cons_append, lowerFrom]
      simp only [hfront]
      exact ⟨_, inWord', (List.append_assoc _ _ _).symm⟩

/-- Without capital sigmas what comes first in a text is made small character by character. -/
theorem exists_lowerFrom_append_of_not_mem {cs : List Char} (h : 'Σ' ∉ cs) (inWord : Bool)
    (ds : List Char) :
    ∃ inWord', lowerFrom inWord (cs ++ ds) = cs.flatMap lowerChar ++ lowerFrom inWord' ds := by
  induction cs generalizing inWord with
  | nil => exact ⟨inWord, rfl⟩
  | cons c cs ih =>
      obtain ⟨hc, hcs⟩ := not_or.1 (mt List.mem_cons.2 h)
      obtain ⟨inWord', hrest⟩ := ih hcs (if isCaseIgnorable c then inWord else isCased c)
      refine ⟨inWord', ?_⟩
      rw [List.cons_append, lowerFrom]
      simp only [Ne.symm hc, if_false, hrest]
      rw [List.flatMap_cons, List.append_assoc]

/-- A part of a text is a part of it in lower case. -/
theorem lowerFrom_infix {cs ds : List Char} (h : cs <:+: ds) (hsigma : 'Σ' ∉ cs)
    (inWord inWord' : Bool) : lowerFrom inWord cs <:+: lowerFrom inWord' ds := by
  obtain ⟨front, back, rfl⟩ := h
  rw [List.append_assoc]
  obtain ⟨before, middle, hbefore⟩ := exists_lowerFrom_append inWord' front (cs ++ back)
  obtain ⟨last, hbehind⟩ := exists_lowerFrom_append_of_not_mem hsigma middle back
  obtain ⟨_, halone⟩ := exists_lowerFrom_append_of_not_mem hsigma inWord []
  rw [List.append_nil] at halone
  rw [hbefore, hbehind, halone]
  exact ⟨before, lowerFrom last back, by simp [lowerFrom]⟩

/-! ## Parts with capital sigmas -/

/-- Whether a letter in a case is the last thing in a text, characters that do not separate letters
left out; `inWord` says whether one stands before the text. -/
def endsInWord (inWord : Bool) (cs : List Char) : Bool :=
  cs.foldl (fun inWord c => if isCaseIgnorable c then inWord else isCased c) inWord

/-- Whether a capital sigma ends a word in a text, but does not where the other text follows. -/
def CutsWord (inWord : Bool) (cs ds : List Char) : Prop :=
  ∃ front marks, cs = front ++ 'Σ' :: marks ∧ endsInWord inWord front = true ∧
    (∀ c ∈ marks, isCaseIgnorable c = true) ∧ beginsWithLetter ds = true

theorem CutsWord.cons {inWord : Bool} {c : Char} {cs ds : List Char}
    (h : CutsWord (if isCaseIgnorable c then inWord else isCased c) cs ds) :
    CutsWord inWord (c :: cs) ds := by
  obtain ⟨front, marks, rfl, hfront, hrest⟩ := h
  exact ⟨c :: front, marks, rfl, hfront, hrest⟩

/-- What the next thing in a text is shows in its first part, unless this separates nothing. -/
theorem beginsWithLetter_append (cs ds : List Char) :
    beginsWithLetter (cs ++ ds) = beginsWithLetter cs ∨
      (∀ c ∈ cs, isCaseIgnorable c = true) ∧ beginsWithLetter (cs ++ ds) = beginsWithLetter ds ∧
        beginsWithLetter cs = false := by
  induction cs with
  | nil => exact .inr ⟨fun c hc => absurd hc List.not_mem_nil, rfl, rfl⟩
  | cons c cs ih =>
      rw [List.cons_append, beginsWithLetter, beginsWithLetter]
      by_cases hc : isCaseIgnorable c = true
      · rw [if_pos hc, if_pos hc]
        rcases ih with hsame | ⟨hmarks, hrest⟩
        · exact .inl hsame
        · exact .inr ⟨List.forall_mem_cons.2 ⟨hc, hmarks⟩, hrest⟩
      · rw [if_neg hc, if_neg hc]
        exact .inl rfl

/-- A part of a text at its start is made small by itself, unless a word is cut. -/
theorem lowerFrom_append {inWord : Bool} {cs ds : List Char} (h : ¬CutsWord inWord cs ds) :
    lowerFrom inWord (cs ++ ds) = lowerFrom inWord cs ++ lowerFrom (endsInWord inWord cs) ds := by
  induction cs generalizing inWord with
  | nil => rfl
  | cons c cs ih =>
      -- of all forms only that of a capital sigma depends on what follows
      have hform : c = 'Σ' →
          (inWord && !beginsWithLetter (cs ++ ds)) = (inWord && !beginsWithLetter cs) := by
        rintro rfl
        rcases beginsWithLetter_append cs ds with hsame | ⟨hmarks, hbehind, hnone⟩
        · rw [hsame]
        · rw [hbehind, hnone]
          cases hword : inWord with
          | false => rfl
          | true =>
              cases hds : beginsWithLetter ds with
              | false => rfl
              | true => exact absurd ⟨[], cs, rfl, hword, hmarks, hds⟩ h
      have hrest := ih (mt CutsWord.cons h)
      rw [List.cons_append, lowerFrom, lowerFrom]
      simp only [hrest]
      by_cases hc : c = 'Σ'
      · simp only [if_pos hc, hform hc, List.append_assoc]
        rfl
      · simp only [if_neg hc, List.append_assoc]
        rfl

section Start

variable {c : Char} (hsigma : c ≠ 'Σ') (hc : isCaseIgnorable c = false)
include hsigma hc

/-- What stands before a character that is not left out does not matter behind it. -/
theorem lowerFrom_cons_congr (inWord inWord' : Bool) (cs : List Char) :
    lowerFrom inWord (c :: cs) = lowerFrom inWord' (c :: cs) := by
  rw [lowerFrom, lowerFrom]
  simp only [if_neg hsigma, hc, Bool.false_eq_true, if_false]

theorem CutsWord.congr {inWord inWord' : Bool} {cs ds : List Char}
    (h : CutsWord inWord (c :: cs) ds) : CutsWord inWord' (c :: cs) ds := by
  obtain ⟨front, marks, hcs, hfront, hrest⟩ := h
  cases front with
  | nil => exact absurd (List.cons.inj hcs).1 hsigma
  | cons d front =>
      obtain ⟨rfl, hcs'⟩ := List.cons.inj hcs
      refine ⟨c :: front, marks, hcs, ?_, hrest⟩
      simpa only [endsInWord, List.foldl_cons, hc, Bool.false_eq_true, if_false] using hfront

/-- A part of a text that begins with a character that is not left out, and that ends where no word
is cut, is a part of it in lower case. -/
theorem lowerFrom_infix_of_not_cutsWord {cs behind : List Char}
    (h : ¬CutsWord false (c :: cs) behind) (inWord : Bool) (before : List Char) :
    lowerFrom false (c :: cs) <:+: lowerFrom inWord (before ++ (c :: cs) ++ behind) := by
  obtain ⟨front, middle, hfront⟩ := exists_lowerFrom_append inWord before (c :: cs ++ behind)
  have hcut : ¬CutsWord middle (c :: cs) behind := mt (CutsWord.congr hsigma hc) h
  have hpart := lowerFrom_append hcut
  rw [List.append_assoc, hfront, hpart, lowerFrom_cons_congr hsigma hc middle false,
    ← List.append_assoc]
  exact List.infix_append _ _ _

end Start

end Prospector.Text
