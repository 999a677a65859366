import Prospector.Proofs.Text.LetterCase
import Prospector.Text.Percent

/-!
# Percent encoding leaves encoded text alone

A text is spared by a class of characters if it is ASCII and has none of the class. Encoding brings
forth spared texts only, provided that the percent sign and the upper-case hexadecimal digits are
not of the class, and it leaves spared texts as they are; so encoding twice is encoding once.
Decoding leaves ASCII text without percent signs alone.
-/

namespace Prospector.Text

/-- Whether all characters are ASCII ones and none is of the class `special`. -/
def Spared (special : Char → Bool) (cs : List Char) : Prop :=
  ∀ c ∈ cs, c.toNat < 128 ∧ special c = false

/-- Whether encoded text has no characters of a class. -/
def IsCodeFree (special : Char → Bool) : Prop :=
  special '%' = false ∧ ∀ n < 16, special (upperHexDigit n) = false

theorem toNat_upperHexDigit_lt {n : Nat} (h : n < 16) : (upperHexDigit n).toNat < 128 := by
  revert n
  decide

theorem spared_percentByte {special : Char → Bool} (hfree : IsCodeFree special) (b : UInt8) :
    Spared special (percentByte b) := by
  have hb : b.toNat < 256 := b.toNat_lt
  have hhigh : b.toNat / 16 < 16 := by omega
  have hlow : b.toNat % 16 < 16 := by omega
  intro c hc
  simp only [percentByte, List.mem_cons, List.not_mem_nil, or_false] at hc
  rcases hc with rfl | rfl | rfl
  · exact ⟨by decide, hfree.1⟩
  · exact ⟨toNat_upperHexDigit_lt hhigh, hfree.2 _ hhigh⟩
  · exact ⟨toNat_upperHexDigit_lt hlow, hfree.2 _ hlow⟩

/-- Encoded text is spared. -/
theorem spared_percentEncode {special : Char → Bool} (hfree : IsCodeFree special)
    (cs : List Char) : Spared special (percentEncode special cs) := by
  intro c hc
  obtain ⟨d, -, hd⟩ := List.mem_flatMap.1 hc
  unfold percentChar at hd
  split at hd
  · next hplain =>
    rw [List.mem_singleton.1 hd]
    simpa using hplain
  · obtain ⟨b, -, hb⟩ := List.mem_flatMap.1 hd
    exact spared_percentByte hfree b c hb

/-- Encoding keeps off the characters of a class that encoded text has none of. -/
theorem eq_false_of_mem_percentEncode {special other : Char → Bool} (hfree : IsCodeFree other)
    {cs : List Char} (h : ∀ c ∈ cs, other c = false) :
    ∀ c ∈ percentEncode special cs, other c = false := by
  intro c hc
  obtain ⟨d, hd, hcd⟩ := List.mem_flatMap.1 hc
  unfold percentChar at hcd
  split at hcd
  · rw [List.mem_singleton.1 hcd]
    exact h d hd
  · obtain ⟨b, -, hb⟩ := List.mem_flatMap.1 hcd
    exact (spared_percentByte hfree b c hb).2

theorem percentChar_ne_nil (special : Char → Bool) (c : Char) : percentChar special c ≠ [] := by
  unfold percentChar
  split
  · exact List.cons_ne_nil _ _
  · have hpos : 0 < (String.utf8EncodeChar c).length := by
      rw [String.length_utf8EncodeChar]
      exact c.utf8Size_pos
    obtain ⟨b, bytes, hbytes⟩ := List.exists_cons_of_length_pos hpos
    rw [hbytes]
    exact List.cons_ne_nil _ _

/-- Only the empty text is encoded as the empty text. -/
theorem percentEncode_ne_nil {special : Char → Bool} {cs : List Char} (h : cs ≠ []) :
    percentEncode special cs ≠ [] := by
  obtain ⟨c, rest, rfl⟩ := List.exists_cons_of_ne_nil h
  rw [percentEncode, List.flatMap_cons]
  exact List.append_ne_nil_of_left_ne_nil (percentChar_ne_nil special c) _

/-- Encoding leaves spared text as it is. -/
theorem percentEncode_of_spared {special : Char → Bool} {cs : List Char} (h : Spared special cs) :
    percentEncode special cs = cs := by
  induction cs with
  | nil => rfl
  | cons c cs ih =>
      obtain ⟨hascii, hplain⟩ := h c List.mem_cons_self
      have hchar : percentChar special c = [c] := if_pos (by simp [hascii, hplain])
      have hrest := ih fun d hd => h d (List.mem_cons_of_mem c hd)
      rw [percentEncode, List.flatMap_cons, hchar]
      exact congrArg (c :: ·) hrest

/-- Decoding leaves text without percent signs as it is. -/
theorem percentDecode_of_not_mem {cs : List Char} (h : '%' ∉ cs) :
    percentDecode cs = utf8Of cs := by
  fun_induction percentDecode cs with
  | case1 => rfl
  | case2 => exact absurd List.mem_cons_self h
  | case3 => exact absurd List.mem_cons_self h
  | case4 c rest _ ih =>
      rw [ih fun hmem => h (List.mem_cons_of_mem c hmem)]
      rfl

theorem decodeUtf8?_utf8Of (cs : List Char) :
    decodeUtf8? (utf8Of cs) = some (String.ofList cs) := by
  have hbytes : (⟨(utf8Of cs).toArray⟩ : ByteArray) = (String.ofList cs).toByteArray := by
    rw [String.toByteArray_ofList, ByteArray.ext_iff, List.utf8Encode, List.data_toByteArray]
    rfl
  rw [decodeUtf8?, hbytes, String.fromUTF8?, dif_pos (String.ofList cs).isValidUTF8]
  rfl

end Prospector.Text
