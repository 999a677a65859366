import Mathlib.Data.List.Infix
import Prospector.Text.LetterCase
import Prospector.Text.Occurrence
import Prospector.Text.Utf8

/-!
# Parts of texts and of their bytes

Where the bytes of one text stand among those of another, the first text stands in the second one.
This is so because bytes below 128 stand for themselves only and because the bytes of a character
say where it ends. Making ASCII letters small can be done with the bytes as well as with the
characters.

## Main results

* `Text.occursIn_iff` : what occurs in a text is an infix of it.
* `Text.infix_of_utf8Of` : a text that begins with an ASCII character is found by its bytes.
* `Text.utf8Of_map_lowerAscii` : ASCII letters are made small byte by byte.
-/

namespace Prospector.Text

/-- What holds of the first code points holds of ASCII characters. -/
theorem forall_ascii {P : Char → Prop} (h : ∀ n < 128, P (Char.ofNat n)) {c : Char}
    (hc : c.toNat < 128) : P c := by
  have hchar := h c.toNat hc
  rwa [Char.ofNat_toNat] at hchar

theorem occursIn_iff {needle hay : List Char} : occursIn needle hay = true ↔ needle <:+: hay := by
  induction hay with
  | nil =>
      rw [occursIn, List.isEmpty_iff]
      exact List.infix_nil.symm
  | cons c hay ih =>
      rw [occursIn, Bool.or_eq_true, List.isPrefixOf_iff_prefix, ih]
      exact List.infix_cons_iff.symm

/-! ## Bytes of characters -/

theorem utf8EncodeChar_of_lt {c : Char} (h : c.toNat < 128) :
    String.utf8EncodeChar c = [UInt8.ofNat c.toNat] :=
  if_pos (Nat.le_of_lt_succ h)

/-- The bytes of a character that is not ASCII are not bytes of ASCII characters. -/
theorem le_of_mem_utf8EncodeChar {c : Char} (h : 128 ≤ c.toNat) {b : UInt8}
    (hb : b ∈ String.utf8EncodeChar c) : 128 ≤ b.toNat := by
  have hbyte : ∀ low n : Nat, 128 ≤ low → low + n < 256 → 128 ≤ (UInt8.ofNat (n + low)).toNat := by
    intro low n hlow hlt
    rw [UInt8.toNat_ofNat']
    omega
  have hne : ¬c.val.toNat ≤ 127 := Nat.not_le.2 h
  simp only [String.utf8EncodeChar, hne, if_false] at hb
  split at hb
  · simp only [List.mem_cons, List.not_mem_nil, or_false] at hb
    rcases hb with rfl | rfl <;> apply hbyte <;> omega
  · split at hb
    · simp only [List.mem_cons, List.not_mem_nil, or_false] at hb
      rcases hb with rfl | rfl | rfl <;> apply hbyte <;> omega
    · simp only [List.mem_cons, List.not_mem_nil, or_false] at hb
      rcases hb with rfl | rfl | rfl | rfl <;> apply hbyte <;> omega

/-- A byte below 128 is a character of its own. -/
theorem eq_of_mem_utf8EncodeChar {c d : Char} (hc : c.toNat < 128)
    (h : UInt8.ofNat c.toNat ∈ String.utf8EncodeChar d) : d = c := by
  have hbyte : (UInt8.ofNat c.toNat).toNat = c.toNat := by
    rw [UInt8.toNat_ofNat']
    omega
  have hd : d.toNat < 128 := by
    by_contra hle
    have hlow := le_of_mem_utf8EncodeChar (Nat.not_lt.1 hle) h
    omega
  rw [utf8EncodeChar_of_lt hd, List.mem_singleton] at h
  have hvalue := congrArg UInt8.toNat h
  rw [hbyte, UInt8.toNat_ofNat', Nat.mod_eq_of_lt (by omega)] at hvalue
  exact Char.toNat_inj.1 hvalue.symm

theorem eq_of_utf8EncodeChar_append {c d : Char} {xs ys : List UInt8}
    (h : String.utf8EncodeChar c ++ xs = String.utf8EncodeChar d ++ ys) : c = d := by
  have hbytes := congrArg List.toByteArray h
  rw [List.toByteArray_append, List.toByteArray_append] at hbytes
  have hchar := congrArg (fun b => ByteArray.utf8DecodeChar? b 0) hbytes
  simp only [ByteArray.utf8DecodeChar?_utf8EncodeChar_append] at hchar
  exact Option.some.inj hchar

/-! ## Bytes of texts -/

theorem utf8Of_cons (c : Char) (cs : List Char) :
    utf8Of (c :: cs) = String.utf8EncodeChar c ++ utf8Of cs := rfl

/-- A text whose bytes begin with those of another text begins with that text. -/
theorem prefix_of_utf8Of {cs ds : List Char} {rest : List UInt8}
    (h : utf8Of cs = utf8Of ds ++ rest) : ds <+: cs := by
  induction ds generalizing cs with
  | nil => exact List.nil_prefix
  | cons d ds ih =>
      rw [utf8Of_cons, List.append_assoc] at h
      cases cs with
      | nil =>
          have hlength := congrArg List.length h
          have hpos := d.utf8Size_pos
          rw [List.length_append, String.length_utf8EncodeChar] at hlength
          simp only [utf8Of, List.flatMap_nil, List.length_nil] at hlength
          omega
      | cons c cs =>
          rw [utf8Of_cons] at h
          obtain rfl := eq_of_utf8EncodeChar_append h
          exact List.cons_prefix_cons.2 ⟨rfl, ih (List.append_cancel_left h)⟩

/-- The byte of an ASCII character cuts a text in two. -/
theorem exists_append_of_utf8Of {c : Char} (hc : c.toNat < 128) {cs : List Char}
    {front rest : List UInt8} (h : utf8Of cs = front ++ UInt8.ofNat c.toNat :: rest) :
    ∃ before behind, cs = before ++ c :: behind ∧ utf8Of behind = rest := by
  induction cs generalizing front with
  | nil => exact absurd h.symm (List.append_ne_nil_of_right_ne_nil _ (List.cons_ne_nil _ _))
  | cons d cs ih =>
      rw [utf8Of_cons] at h
      rcases List.append_eq_append_iff.1 h with ⟨more, -, hrest⟩ | ⟨more, hfront, hrest⟩
      · obtain ⟨before, behind, rfl, hbehind⟩ := ih hrest
        exact ⟨d :: before, behind, rfl, hbehind⟩
      · cases more with
        | nil =>
            have hstart : utf8Of cs = [] ++ UInt8.ofNat c.toNat :: rest := hrest.symm
            obtain ⟨before, behind, rfl, hbehind⟩ := ih hstart
            exact ⟨d :: before, behind, rfl, hbehind⟩
        | cons b more =>
            obtain ⟨rfl, hbehind⟩ := List.cons.inj hrest
            have hmem : UInt8.ofNat c.toNat ∈ String.utf8EncodeChar d := by
              rw [hfront]
              exact List.mem_append_right _ List.mem_cons_self
            obtain rfl := eq_of_mem_utf8EncodeChar hc hmem
            have hlength := congrArg List.length hfront
            rw [utf8EncodeChar_of_lt hc, List.length_append] at hlength
            simp only [List.length_cons, List.length_nil] at hlength
            obtain rfl := List.eq_nil_of_length_eq_zero (show more.length = 0 by omega)
            exact ⟨[], cs, rfl, hbehind.symm⟩

/-- A text that begins with an ASCII character is found by its bytes. -/
theorem infix_of_utf8Of {c : Char} (hc : c.toNat < 128) {cs ds : List Char}
    {front rest : List UInt8} (h : utf8Of cs = front ++ utf8Of (c :: ds) ++ rest) :
    c :: ds <:+: cs := by
  rw [utf8Of_cons, utf8EncodeChar_of_lt hc, List.append_assoc, List.append_assoc,
    List.singleton_append] at h
  obtain ⟨before, behind, rfl, hbehind⟩ := exists_append_of_utf8Of hc h
  have hprefix : c :: ds <+: c :: behind :=
    List.cons_prefix_cons.2 ⟨rfl, prefix_of_utf8Of hbehind⟩
  exact hprefix.isInfix.trans (List.suffix_append before _).isInfix

/-! ## Small ASCII letters -/

/-- A byte with an ASCII capital letter made small. -/
def lowerByte (b : UInt8) : UInt8 :=
  if 65 ≤ b.toNat ∧ b.toNat ≤ 90 then UInt8.ofNat (b.toNat + 32) else b

theorem lowerAscii_of_le {c : Char} (h : 128 ≤ c.toNat) : lowerAscii c = c := by
  refine if_neg fun hcapital => ?_
  obtain ⟨-, hZ⟩ := Bool.and_eq_true_iff.1 hcapital
  have hle : c.toNat ≤ 'Z'.toNat := of_decide_eq_true hZ
  have hvalue : 'Z'.toNat = 90 := rfl
  omega

theorem lowerAscii_lt {c : Char} (h : c.toNat < 128) : (lowerAscii c).toNat < 128 :=
  forall_ascii (P := fun c => (lowerAscii c).toNat < 128) (by decide) h

/-- What a property of characters says does not depend on the case of ASCII letters if it does not
for ASCII characters. -/
theorem lowerAscii_congr {α : Type} {f : Char → α}
    (h : ∀ n < 128, f (lowerAscii (Char.ofNat n)) = f (Char.ofNat n)) (c : Char) :
    f (lowerAscii c) = f c := by
  by_cases hc : c.toNat < 128
  · exact forall_ascii (P := fun c => f (lowerAscii c) = f c) h hc
  · rw [lowerAscii_of_le (Nat.not_lt.1 hc)]

@[simp] theorem lowerAscii_lowerAscii (c : Char) : lowerAscii (lowerAscii c) = lowerAscii c :=
  lowerAscii_congr (by decide) c

/-- ASCII letters are made small byte by byte. -/
theorem utf8EncodeChar_lowerAscii (c : Char) :
    String.utf8EncodeChar (lowerAscii c) = (String.utf8EncodeChar c).map lowerByte := by
  by_cases hc : c.toNat < 128
  · exact forall_ascii (P := fun c =>
      String.utf8EncodeChar (lowerAscii c) = (String.utf8EncodeChar c).map lowerByte) (by decide) hc
  · have hle := Nat.not_lt.1 hc
    have hbytes : ∀ b ∈ String.utf8EncodeChar c, lowerByte b = b := by
      intro b hb
      have hb128 := le_of_mem_utf8EncodeChar hle hb
      exact if_neg (by omega)
    rw [lowerAscii_of_le hle, List.map_congr_left hbytes, List.map_id']

theorem utf8Of_map_lowerAscii (cs : List Char) :
    utf8Of (cs.map lowerAscii) = (utf8Of cs).map lowerByte := by
  induction cs with
  | nil => rfl
  | cons c cs ih =>
      rw [List.map_cons, utf8Of_cons, utf8Of_cons, List.map_append, ih, utf8EncodeChar_lowerAscii]

end Prospector.Text
