import Prospector.Proofs.Text.Percent

/-!
# Parts of percent-encoded texts

Where one percent-encoded text stands in another one, what the first stands for is a part of what
the second stands for, provided that no escape reaches over an end of the first. At its start none
does if it begins with a slash; at its end none does if all its percent signs begin escapes. Letter
case does not matter to escapes.

## Main definitions

* `Text.isEscaped` : whether all percent signs begin escapes.

## Main results

* `Text.lower_unescaped_infix` : in lower case, an encoded text that stands in another one stands
  for a part of what the other stands for.
* `Text.lower_infix_of_not_mem` : so does a text without percent signs, which stands for itself.
-/

namespace Prospector.Text

/-- Whether every percent sign begins an escape. -/
def isEscaped : List Char → Bool
  | [] => true
  | '%' :: a :: b :: rest => (hexValue? a).isSome && (hexValue? b).isSome && isEscaped rest
  | c :: rest => c != '%' && isEscaped rest

theorem utf8Of_of_decodeUtf8? {bytes : List UInt8} {s : String} (h : decodeUtf8? bytes = some s) :
    utf8Of s.toList = bytes := by
  unfold decodeUtf8? String.fromUTF8? at h
  split at h
  · next hvalid =>
    have hs := congrArg String.toByteArray (Option.some.inj h)
    have hbytes : s.toList.utf8Encode = ⟨bytes.toArray⟩ := by
      rw [← String.toByteArray_ofList, String.ofList_toList]
      exact hs.symm
    have hlist := congrArg (fun b : ByteArray => b.data.toList) hbytes
    rwa [List.utf8Encode, List.data_toByteArray] at hlist
  · cases h

/-! ## One step of decoding -/

theorem percentDecode_cons_of_ne {c : Char} (h : c ≠ '%') (rest : List Char) :
    percentDecode (c :: rest) = String.utf8EncodeChar c ++ percentDecode rest :=
  percentDecode.eq_3 c rest fun _ _ _ hc _ => h hc

theorem percentDecode_percent_of {rest : List Char}
    (h : ∀ a b behind, rest = a :: b :: behind → hexValue? a = none ∨ hexValue? b = none) :
    percentDecode ('%' :: rest) = String.utf8EncodeChar '%' ++ percentDecode rest := by
  match rest with
  | [] => rfl
  | [_] => rfl
  | a :: b :: behind =>
      rw [percentDecode]
      split
      · next high low ha hb =>
        exfalso
        rcases h a b behind rfl with hnone | hnone
        · rw [ha] at hnone
          cases hnone
        · rw [hb] at hnone
          cases hnone
      · rfl

/-- Two characters that are no hexadecimal digits make no escape, whatever follows. -/
theorem hexValue?_eq_none_or {a b x y : Char} {rest behind : List Char}
    (hnone : ∀ high low : Nat, hexValue? x = some high → hexValue? y = some low → False)
    (h : x :: y :: rest = a :: b :: behind) : hexValue? a = none ∨ hexValue? b = none := by
  obtain ⟨rfl, htail⟩ := List.cons.inj h
  obtain ⟨rfl, -⟩ := List.cons.inj htail
  cases hx : hexValue? x with
  | none => exact .inl rfl
  | some high =>
      cases hy : hexValue? y with
      | none => exact .inr rfl
      | some low => exact (hnone high low hx hy).elim

/-! ## Parts -/

/-- A text whose percent signs begin escapes is decoded by itself, whatever follows. -/
theorem percentDecode_append_of_isEscaped {cs : List Char} (h : isEscaped cs = true)
    (ds : List Char) : percentDecode (cs ++ ds) = percentDecode cs ++ percentDecode ds := by
  fun_induction isEscaped cs with
  | case1 => rfl
  | case2 a b rest ih =>
      simp only [Bool.and_eq_true] at h
      obtain ⟨⟨ha, hb⟩, hrest⟩ := h
      obtain ⟨high, ha⟩ := Option.isSome_iff_exists.1 ha
      obtain ⟨low, hb⟩ := Option.isSome_iff_exists.1 hb
      simp only [List.cons_append, percentDecode, ha, hb, ih hrest]
  | case3 c rest _ ih =>
      obtain ⟨hc, hrest⟩ := Bool.and_eq_true_iff.1 h
      have hne : c ≠ '%' := bne_iff_ne.1 hc
      rw [List.cons_append, percentDecode_cons_of_ne hne, percentDecode_cons_of_ne hne, ih hrest,
        List.append_assoc]

/-- A text is decoded by itself if no hexadecimal digit follows. -/
theorem percentDecode_append_of_head {ds : List Char} (h : ∀ d ∈ ds.head?, hexValue? d = none)
    (cs : List Char) : percentDecode (cs ++ ds) = percentDecode cs ++ percentDecode ds := by
  fun_induction percentDecode cs with
  | case1 => rfl
  | case2 a b rest high low hb ha ih =>
      simp only [List.cons_append, percentDecode, ha, hb, ih]
  | case3 a b rest hnone ih =>
      rw [List.append_assoc, ← ih]
      apply percentDecode_percent_of
      exact fun _ _ _ hab => hexValue?_eq_none_or hnone hab
  | case4 c rest hshort ih =>
      rw [List.append_assoc, ← ih, List.cons_append]
      by_cases hc : c = '%'
      · subst hc
        apply percentDecode_percent_of
        intro a b behind hab
        match rest with
        | [] =>
            left
            exact h a (by simp [show ds = _ from hab])
        | [_] =>
            right
            obtain ⟨-, hds⟩ := List.cons.inj hab
            exact h b (by simp [show ds = _ from hds])
        | x :: y :: rest => exact (hshort x y rest rfl rfl).elim
      · exact percentDecode_cons_of_ne hc _

/-! ## Letter case -/

theorem hexValue?_lowerAscii (c : Char) : hexValue? (lowerAscii c) = hexValue? c :=
  lowerAscii_congr (by decide) c

theorem lowerAscii_eq_percent (c : Char) : lowerAscii c = '%' ↔ c = '%' := by
  have h := lowerAscii_congr (f := fun c => c == '%') (by decide) c
  rw [← beq_iff_eq, h, beq_iff_eq]

/-- A percent sign with less than two characters behind it, in either case of letters. -/
theorem not_escape_map_lowerAscii {c : Char} {rest : List Char}
    (hshort : ∀ (a b : Char) (behind : List Char), c = '%' → rest = a :: b :: behind → False)
    (a b : Char) (behind : List Char) (hc : lowerAscii c = '%')
    (hrest : rest.map lowerAscii = a :: b :: behind) : False := by
  obtain ⟨x, rest, rfl, -, hrest⟩ := List.map_eq_cons_iff.1 hrest
  obtain ⟨y, rest, rfl, -, -⟩ := List.map_eq_cons_iff.1 hrest
  exact hshort x y rest ((lowerAscii_eq_percent c).1 hc) rfl

theorem isEscaped_map_lowerAscii (cs : List Char) :
    isEscaped (cs.map lowerAscii) = isEscaped cs := by
  fun_induction isEscaped cs with
  | case1 => rfl
  | case2 a b rest ih =>
      show isEscaped ('%' :: lowerAscii a :: lowerAscii b :: rest.map lowerAscii) = _
      rw [isEscaped, ih, hexValue?_lowerAscii, hexValue?_lowerAscii]
  | case3 c rest hshort ih =>
      have hc := lowerAscii_congr (f := fun c => c != '%') (by decide) c
      rw [List.map_cons, isEscaped.eq_3 _ _ (not_escape_map_lowerAscii hshort), ih, hc]

theorem map_lowerByte_utf8EncodeChar (c : Char) :
    (String.utf8EncodeChar (lowerAscii c)).map lowerByte =
      (String.utf8EncodeChar c).map lowerByte := by
  rw [← utf8EncodeChar_lowerAscii, lowerAscii_lowerAscii, utf8EncodeChar_lowerAscii]

/-- Letter case does not matter to escapes. -/
theorem percentDecode_map_lowerAscii (cs : List Char) :
    (percentDecode (cs.map lowerAscii)).map lowerByte = (percentDecode cs).map lowerByte := by
  fun_induction percentDecode cs with
  | case1 => rfl
  | case2 a b rest high low hb ha ih =>
      have ha' := (hexValue?_lowerAscii a).trans ha
      have hb' := (hexValue?_lowerAscii b).trans hb
      show (percentDecode ('%' :: lowerAscii a :: lowerAscii b :: rest.map lowerAscii)).map _ = _
      simp only [percentDecode, ha', hb', List.map_cons, ih]
  | case3 a b rest hnone ih =>
      show (percentDecode ('%' :: lowerAscii a :: lowerAscii b :: rest.map lowerAscii)).map _ = _
      rw [percentDecode_percent_of, List.map_append, List.map_append]
      · exact congrArg _ ih
      · rw [← hexValue?_lowerAscii a, ← hexValue?_lowerAscii b] at hnone
        exact fun _ _ _ hab => hexValue?_eq_none_or hnone hab
  | case4 c rest hshort ih =>
      rw [List.map_cons, percentDecode.eq_3 _ _ (not_escape_map_lowerAscii hshort),
        List.map_append, List.map_append, ih, map_lowerByte_utf8EncodeChar]

/-! ## What encoded texts stand for -/

theorem isEscaped_of_not_mem {cs : List Char} (h : '%' ∉ cs) : isEscaped cs = true := by
  fun_induction isEscaped cs with
  | case1 => rfl
  | case2 => exact absurd List.mem_cons_self h
  | case3 c rest _ ih =>
      obtain ⟨hc, hrest⟩ := not_or.1 (mt List.mem_cons.2 h)
      rw [ih hrest, Bool.and_true, bne_iff_ne]
      exact Ne.symm hc

/-- A text that begins with a slash and whose percent signs begin escapes is decoded by itself
wherever it stands. -/
theorem percentDecode_of_infix {part : List Char} (hslash : part.head? = some '/')
    (hescaped : isEscaped part = true) (front back : List Char) :
    percentDecode (front ++ part ++ back) =
      percentDecode front ++ percentDecode part ++ percentDecode back := by
  have hhead : ∀ d ∈ (part ++ back).head?, hexValue? d = none := by
    intro d hd
    rw [List.head?_append, hslash] at hd
    rw [← Option.some.inj hd]
    decide
  rw [List.append_assoc, percentDecode_append_of_head hhead,
    percentDecode_append_of_isEscaped hescaped, List.append_assoc]

section Unescaped

variable {p q : List Char} {s t : String}

/-- What a text stands for begins as the text does, unless this begins with an escape. -/
theorem head?_of_utf8Of_of_ne {c : Char} (hc : c ≠ '%') (hp : p.head? = some c)
    (hs : utf8Of s.toList = percentDecode p) : s.toList.head? = some c := by
  obtain ⟨rest, rfl⟩ := List.head?_eq_some_iff.1 hp
  rw [percentDecode_cons_of_ne hc] at hs
  cases hchars : s.toList with
  | nil =>
      have hpos : 0 < (String.utf8EncodeChar c).length := by
        rw [String.length_utf8EncodeChar]
        exact c.utf8Size_pos
      have hlength := congrArg List.length hs
      rw [hchars, List.length_append] at hlength
      have hnone : (utf8Of []).length = 0 := rfl
      omega
  | cons d ds =>
      rw [hchars, utf8Of_cons] at hs
      rw [eq_of_utf8EncodeChar_append hs]
      rfl

/-- What a text stands for begins with a slash if the text does. -/
theorem head?_of_utf8Of (hp : p.head? = some '/') (hs : utf8Of s.toList = percentDecode p) :
    s.toList.head? = some '/' :=
  head?_of_utf8Of_of_ne (by decide) hp hs

theorem head?_lower (hs : s.toList.head? = some '/') : (lower s).toList.head? = some '/' := by
  obtain ⟨rest, hrest⟩ := List.head?_eq_some_iff.1 hs
  rw [lower, hrest, String.toList_ofList]
  rfl

/-- Bytes found between others, the first of which is that of a slash, are found as a text. -/
theorem lower_infix_of_bytes {part : List Char} (hslash : part.head? = some '/')
    (hsigma : 'Σ' ∉ part) (ht : utf8Of t.toList = percentDecode q) {front back : List UInt8}
    (hbytes : (percentDecode (q.map lowerAscii)).map lowerByte = front ++ utf8Of part ++ back) :
    lowerFrom false part <:+: (lower t).toList := by
  obtain ⟨rest, rfl⟩ := List.head?_eq_some_iff.1 hslash
  have htext : utf8Of (t.toList.map lowerAscii) = front ++ utf8Of ('/' :: rest) ++ back := by
    rw [utf8Of_map_lowerAscii, ht, ← percentDecode_map_lowerAscii, hbytes]
  have hpart := lowerFrom_infix (infix_of_utf8Of (by decide) htext) hsigma false false
  rwa [lowerFrom_map_lowerAscii, ← String.toList_ofList (l := lowerFrom false t.toList)] at hpart

/-- In lower case, an encoded text that stands in another one stands for a part of what the other
one stands for. -/
theorem lower_unescaped_infix (hp : p.head? = some '/')
    (hescaped : isEscaped p = true) (hs : utf8Of s.toList = percentDecode p)
    (hsigma : 'Σ' ∉ s.toList) (ht : utf8Of t.toList = percentDecode q)
    (h : p.map lowerAscii <:+: q.map lowerAscii) : (lower s).toList <:+: (lower t).toList := by
  obtain ⟨front, back, hq⟩ := h
  have hsmall : (p.map lowerAscii).head? = some '/' := by
    rw [List.head?_map, hp]
    rfl
  have hslash : (s.toList.map lowerAscii).head? = some '/' := by
    rw [List.head?_map, head?_of_utf8Of hp hs]
    rfl
  have hfree : 'Σ' ∉ s.toList.map lowerAscii := by
    intro hmem
    obtain ⟨c, hc, hcs⟩ := List.mem_map.1 hmem
    exact hsigma ((lowerAscii_eq_sigma c).1 hcs ▸ hc)
  have hmiddle : (percentDecode (p.map lowerAscii)).map lowerByte =
      utf8Of (s.toList.map lowerAscii) := by
    rw [percentDecode_map_lowerAscii, ← hs, utf8Of_map_lowerAscii]
  have hpart := lower_infix_of_bytes hslash hfree ht (by
    rw [← hq, percentDecode_of_infix hsmall ((isEscaped_map_lowerAscii p).trans hescaped),
      List.map_append, List.map_append, hmiddle])
  rwa [lowerFrom_map_lowerAscii, ← String.toList_ofList (l := lowerFrom false s.toList)] at hpart

/-- In lower case, a text without percent signs that stands in an encoded ASCII text stands in what
the other one stands for. -/
theorem lower_infix_of_not_mem {part : List Char} (hslash : part.head? = some '/')
    (hpercent : '%' ∉ part) (hq : ∀ c ∈ q, c.toNat < 128)
    (ht : utf8Of t.toList = percentDecode q) (h : part <:+: q.map lowerAscii) :
    part <:+: (lower t).toList := by
  have hchars : ∀ c ∈ part, c.toNat < 128 ∧ lowerAscii c = c := by
    intro c hc
    obtain ⟨d, hd, rfl⟩ := List.mem_map.1 (h.subset hc)
    exact ⟨lowerAscii_lt (hq d hd), lowerAscii_lowerAscii d⟩
  have hsmall : part.map lowerAscii = part :=
    (List.map_congr_left fun c hc => (hchars c hc).2).trans (List.map_id' part)
  have hsigma : 'Σ' ∉ part := fun hmem => absurd (hchars _ hmem).1 (by decide)
  obtain ⟨front, back, hfound⟩ := h
  have hmiddle : (percentDecode part).map lowerByte = utf8Of part := by
    rw [percentDecode_of_not_mem hpercent, ← utf8Of_map_lowerAscii, hsmall]
  have hpart := lower_infix_of_bytes hslash hsigma ht (by
    rw [← hfound, percentDecode_of_infix hslash (isEscaped_of_not_mem hpercent),
      List.map_append, List.map_append, hmiddle])
  rwa [lowerFrom_of_ascii fun c hc => (hchars c hc).1, hsmall] at hpart

end Unescaped

end Prospector.Text
