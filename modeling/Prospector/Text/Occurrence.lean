/-!
# Occurrences of one text in another

Whether a text occurs somewhere inside another one, and the pieces between the occurrences of a
separator character.
-/

namespace Prospector.Text

/-- Whether the characters of `needle` stand side by side somewhere in the given list. -/
def occursIn (needle : List Char) : List Char → Bool
  | [] => needle.isEmpty
  | c :: cs => needle.isPrefixOf (c :: cs) || occursIn needle cs

/-- Whether `needle` occurs in `hay`. -/
def contains (hay needle : String) : Bool :=
  occursIn needle.toList hay.toList

/-- The pieces between the occurrences of `sep`, one more than there are occurrences. -/
def splitAtChar (sep : Char) : List Char → List (List Char)
  | [] => [[]]
  | c :: cs =>
    if c = sep then [] :: splitAtChar sep cs
    else
      match splitAtChar sep cs with
      | piece :: rest => (c :: piece) :: rest
      | [] => [[c]]

@[simp] theorem occursIn_nil (hay : List Char) : occursIn [] hay = true := by
  cases hay <;> simp [occursIn]

theorem splitAtChar_eq_splitOn (sep : Char) (cs : List Char) :
    splitAtChar sep cs = cs.splitOn sep := by
  induction cs with
  | nil => rfl
  | cons c cs ih =>
    rw [splitAtChar, List.splitOn_cons_eq_if_modifyHead, ih]
    simp only [beq_iff_eq]
    split
    · rfl
    · cases hpieces : cs.splitOn sep with
      | nil => exact absurd hpieces (List.splitOn_ne_nil sep cs)
      | cons piece rest => rfl

theorem splitAtChar_ne_nil (sep : Char) (cs : List Char) : splitAtChar sep cs ≠ [] := by
  rw [splitAtChar_eq_splitOn]
  exact List.splitOn_ne_nil sep cs

/-- The characters of a piece are those of the text, without the separator. -/
theorem mem_of_mem_splitAtChar {sep c : Char} {cs piece : List Char}
    (h : piece ∈ splitAtChar sep cs) (hc : c ∈ piece) : c ∈ cs ∧ c ≠ sep := by
  induction cs generalizing piece with
  | nil =>
    rw [List.mem_singleton.1 h] at hc
    exact absurd hc List.not_mem_nil
  | cons d cs ih =>
    have hrest : ∀ piece ∈ splitAtChar sep cs, c ∈ piece → c ∈ d :: cs ∧ c ≠ sep :=
      fun piece h hc => (ih h hc).imp_left (List.mem_cons_of_mem d)
    rw [splitAtChar] at h
    split at h
    · rcases List.mem_cons.1 h with rfl | h
      · exact absurd hc List.not_mem_nil
      · exact hrest piece h hc
    · next hne =>
      split at h
      · next first rest hpieces =>
        rw [hpieces] at hrest
        rcases List.mem_cons.1 h with rfl | h
        · rcases List.mem_cons.1 hc with rfl | hc
          · exact ⟨List.mem_cons_self, hne⟩
          · exact hrest first List.mem_cons_self hc
        · exact hrest piece (List.mem_cons_of_mem _ h) hc
      · next hpieces => exact absurd hpieces (splitAtChar_ne_nil sep cs)

end Prospector.Text
