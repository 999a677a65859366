import Mathlib.Data.List.TakeWhile
import Prospector.Proofs.Text.Digit
import Prospector.Text.Occurrence
import Prospector.Url.Address

/-!
# Addresses written and read

An address that was read is in its bounds, and an address in its bounds is read back from what it
is written as. For the newer kind this rests on the run that is left out: what stands at either
side of the gap are the groups around a run of zeros, as long as the groups missing.

## Main results

* `Address.lt_of_readFour?`, `Address.readFour?_writeFour` : addresses of the older kind.
* `Address.isEight_of_readEight?`, `Address.readEight?_writeEight` : addresses of the newer kind.
-/

namespace Prospector.Url.Address

/-! ## Four numbers -/

theorem number?_decimal : ∀ n < 256, number? (Text.decimal n) = some n := by
  decide +kernel

/-- The four numbers of an address. -/
def numbersOf (n : Nat) : List Nat :=
  [n / 0x1000000, n / 0x10000 % 256, n / 0x100 % 256, n % 256]

theorem lt_of_mem_numbersOf {n : Nat} (h : n < 2 ^ 32) : ∀ k ∈ numbersOf n, k < 256 := by
  intro k hk
  simp only [numbersOf, List.mem_cons, List.not_mem_nil, or_false] at hk
  omega

theorem not_mem_decimal (n : Nat) : '.' ∉ Text.decimal n := by
  intro hmem
  exact absurd (Text.isDigit_of_mem_decimal hmem) (by decide)

theorem partsOf_writeFour (n : Nat) :
    partsOf (writeFour n) = (numbersOf n).map Text.decimal := by
  have hsplit : Text.splitAtChar '.' (writeFour n) = (numbersOf n).map Text.decimal := by
    rw [Text.splitAtChar_eq_splitOn]
    refine List.splitOn_intercalate '.' ?_ (List.cons_ne_nil _ _)
    intro part hpart
    obtain ⟨k, -, rfl⟩ := List.mem_map.1 hpart
    exact not_mem_decimal k
  have hlast : ((numbersOf n).map Text.decimal).getLast? = some (Text.decimal (n % 256)) := rfl
  have hne : (some (Text.decimal (n % 256)) == some []) = false := by
    simpa using Text.decimal_ne_nil _
  simp only [partsOf, hsplit, hlast, hne, Bool.false_eq_true, if_false]

/-- An address that was read has 32 bits. -/
theorem lt_of_readFour? {host : List Char} {n : Nat} (h : readFour? host = some n) :
    n < 2 ^ 32 := by
  simp only [readFour?, Option.bind_eq_bind, Option.bind_eq_some_iff] at h
  obtain ⟨numbers, -, last, -, h⟩ := h
  split at h
  · next hfits =>
    obtain rfl := Option.some.inj h
    simp only [Bool.and_eq_true, decide_eq_true_eq, List.all_eq_true] at hfits
    obtain ⟨⟨hlength, hbytes⟩, hlast⟩ := hfits
    generalize numbers.dropLast = before at *
    have hbefore := Text.ofDigits_lt hbytes
    calc Text.ofDigits 256 before * Nat.pow 256 (4 - before.length) + last
        < Text.ofDigits 256 before * 256 ^ (4 - before.length) + 256 ^ (4 - before.length) :=
          Nat.add_lt_add_left hlast _
      _ = (Text.ofDigits 256 before + 1) * 256 ^ (4 - before.length) := (Nat.succ_mul _ _).symm
      _ ≤ 256 ^ before.length * 256 ^ (4 - before.length) := Nat.mul_le_mul_right _ hbefore
      _ = 256 ^ 4 := by rw [← Nat.pow_add, Nat.add_sub_cancel' (by omega)]
  · exact nomatch h

/-- An address of 32 bits is read back from its four numbers. -/
theorem readFour?_writeFour {n : Nat} (h : n < 2 ^ 32) : readFour? (writeFour n) = some n := by
  have hnumbers : ((numbersOf n).map Text.decimal).mapM number? = some (numbersOf n) :=
    Text.mapM_map_eq_some fun k hk => number?_decimal k (lt_of_mem_numbersOf h k hk)
  have hbytes := lt_of_mem_numbersOf h
  have hvalue : Text.ofDigits 256 (numbersOf n).dropLast * Nat.pow 256 1 + n % 256 = n := by
    have hpow : Nat.pow 256 1 = 256 := rfl
    simp only [numbersOf, List.dropLast, Text.ofDigits, List.foldl_cons, List.foldl_nil, hpow]
    omega
  have hlast : (numbersOf n).getLast? = some (n % 256) := rfl
  have hlength : (numbersOf n).dropLast.length = 3 := rfl
  have hfits : (decide ((numbersOf n).dropLast.length ≤ 3) &&
      (numbersOf n).dropLast.all (· < 256) && decide (n % 256 < Nat.pow 256 1)) = true := by
    simp only [Bool.and_eq_true, decide_eq_true_eq, List.all_eq_true]
    exact ⟨⟨Nat.le_refl _, fun k hk => hbytes k (List.dropLast_subset _ hk)⟩,
      Nat.mod_lt _ (by decide)⟩
  simp only [readFour?, partsOf_writeFour, hnumbers, hlast, Option.bind_eq_bind, Option.bind_some]
  rw [hlength] at *
  rw [if_pos hfits, hvalue]

/-- An address of the older kind ends in a number. -/
theorem endsInNumber_writeFour (n : Nat) : endsInNumber (writeFour n) = true := by
  have hlast : ((numbersOf n).map Text.decimal).getLast? = some (Text.decimal (n % 256)) := rfl
  have hnumber := number?_decimal (n % 256) (Nat.mod_lt _ (by decide))
  simp [endsInNumber, partsOf_writeFour, hlast, hnumber]

theorem mem_writeFour {n : Nat} {c : Char} (h : c ∈ writeFour n) :
    c = '.' ∨ Text.isDigit c = true := by
  refine (Text.mem_intercalate h).imp_right fun ⟨part, hpart, hc⟩ => ?_
  obtain ⟨k, -, rfl⟩ := List.mem_map.1 (show part ∈ (numbersOf n).map Text.decimal from hpart)
  exact Text.isDigit_of_mem_decimal hc

/-! ## Groups -/

theorem lt_of_group? {part : List Char} {g : Nat} (h : group? part = some g) : g < 65536 := by
  unfold group? at h
  split at h
  · exact nomatch h
  · next hlength =>
    simp only [Bool.or_eq_true, decide_eq_true_eq, not_or, Nat.not_lt] at hlength
    obtain ⟨digits, hdigits, rfl⟩ := Option.map_eq_some_iff.1 h
    have hlt : ∀ d ∈ digits, d < 16 := by
      intro d hd
      obtain ⟨c, -, hc⟩ := Text.exists_of_mem_mapM hdigits d hd
      exact Text.lt_of_hexValue? hc
    have hsame := (Text.mapM_eq_some_iff.1 hdigits).length_eq
    calc Text.ofDigits 16 digits < 16 ^ digits.length := Text.ofDigits_lt hlt
      _ ≤ 16 ^ 4 := Nat.pow_le_pow_right (by decide) (hsame ▸ hlength.2)

theorem group?_hexadecimal {g : Nat} (h : g < 65536) : group? (Text.hexadecimal g) = some g := by
  have hlength : (Text.hexadecimal g).length ≤ 4 := Text.length_hexadecimal_le h
  have hne : (Text.hexadecimal g).isEmpty = false := by
    rw [List.isEmpty_eq_false_iff]
    exact Text.hexadecimal_ne_nil g
  have hnot :
      ¬((Text.hexadecimal g).isEmpty || decide (4 < (Text.hexadecimal g).length)) = true := by
    rw [hne, Bool.false_or, decide_eq_true_eq]
    omega
  rw [group?, if_neg hnot, Text.mapM_hexValue?_hexadecimal, Option.map_some,
    Text.ofDigits_reverse_digitsFrom (Text.lt_pow_log2_succ (by decide) g)]

theorem lt_of_octet? {part : List Char} {n : Nat} (h : octet? part = some n) : n < 256 := by
  unfold octet? at h
  split at h
  · exact nomatch h
  · simpa using (Option.filter_eq_some_iff.1 h).2

theorem lt_of_groupsOf? {parts : List (List Char)} {groups : List Nat}
    (h : groupsOf? parts = some groups) : ∀ g ∈ groups, g < 65536 := by
  fun_induction groupsOf? parts generalizing groups with
  | case1 =>
      obtain rfl := Option.some.inj h
      exact fun g hg => absurd hg List.not_mem_nil
  | case2 part a b c d hfour =>
      obtain rfl := Option.some.inj h
      have hlt : ∀ n ∈ [a, b, c, d], n < 256 := by
        intro n hn
        obtain ⟨p, -, hp⟩ := Text.exists_of_mem_mapM hfour n hn
        exact lt_of_octet? hp
      simp only [List.forall_mem_cons, List.not_mem_nil, false_implies, implies_true, and_true] at *
      omega
  | case3 part _ =>
      obtain ⟨g, hg, rfl⟩ := Option.map_eq_some_iff.1 h
      intro k hk
      rw [List.mem_singleton.1 hk]
      exact lt_of_group? hg
  | case4 part parts _ ih =>
      simp only [Option.bind_eq_bind, Option.bind_eq_some_iff, Option.some.injEq] at h
      obtain ⟨g, hg, rest, hrest, rfl⟩ := h
      exact List.forall_mem_cons.2 ⟨lt_of_group? hg, ih hrest⟩

theorem not_mem_hexadecimal {c : Char} (h : ∀ d < 16, c ≠ Text.lowerDigit d) (g : Nat) :
    c ∉ Text.hexadecimal g := by
  intro hmem
  obtain ⟨d, hd, heq⟩ := Text.mem_hexadecimal hmem
  exact h d hd heq

theorem groupsOf?_map_hexadecimal {groups : List Nat} (h : ∀ g ∈ groups, g < 65536) :
    groupsOf? (groups.map Text.hexadecimal) = some groups := by
  induction groups with
  | nil => rfl
  | cons g groups ih =>
      have hg := group?_hexadecimal (h g List.mem_cons_self)
      cases groups with
      | nil =>
          have hsplit : Text.splitAtChar '.' (Text.hexadecimal g) = [Text.hexadecimal g] := by
            rw [Text.splitAtChar_eq_splitOn]
            exact List.splitOn_eq_singleton (not_mem_hexadecimal (by decide) g)
          have hone : ∀ n, ([Text.hexadecimal g].mapM octet?) ≠ some n ∨ n.length = 1 := by
            intro n
            by_cases heq : [Text.hexadecimal g].mapM octet? = some n
            · exact .inr (Text.mapM_eq_some_iff.1 heq).length_eq.symm
            · exact .inl heq
          rw [List.map_singleton, groupsOf?, hsplit]
          split
          · next a b c d heq => exact absurd (hone [a, b, c, d]) (by simp [heq])
          · rw [hg, Option.map_some]
      | cons next groups =>
          have hrest := ih fun k hk => h k (List.mem_cons_of_mem g hk)
          rw [List.map_cons] at hrest ⊢
          simp only [List.map_cons] at hrest ⊢
          rw [groupsOf?, hg, hrest]
          · rfl
          · exact List.cons_ne_nil _ _

/-! ## Gaps -/

theorem splitAtGap_cons {c : Char} (h : c ≠ ':') (cs : List Char) :
    splitAtGap (c :: cs) = (splitAtGap cs).map fun (before, behind) => (c :: before, behind) := by
  rw [splitAtGap]
  exact fun rest hc => absurd hc h

theorem splitAtGap_colon_cons {c : Char} (h : c ≠ ':') (cs : List Char) :
    splitAtGap (':' :: c :: cs) =
      (splitAtGap (c :: cs)).map fun (before, behind) => (':' :: before, behind) := by
  rw [splitAtGap]
  exact fun rest _ hcs => absurd (List.cons.inj hcs).1 h

/-- The gap behind a text without colons is the one of what follows. -/
theorem splitAtGap_append {part : List Char} (h : ':' ∉ part) (cs : List Char) :
    splitAtGap (part ++ cs) =
      (splitAtGap cs).map fun (before, behind) => (part ++ before, behind) := by
  induction part with
  | nil => exact (Option.map_id' (x := splitAtGap cs)).symm
  | cons c part ih =>
      have hc : c ≠ ':' := fun heq => h (heq ▸ List.mem_cons_self)
      rw [List.cons_append, splitAtGap_cons hc, ih fun hmem => h (List.mem_cons_of_mem c hmem),
        Option.map_map]
      rfl

theorem colon_not_mem_hexadecimal (g : Nat) : ':' ∉ Text.hexadecimal g :=
  not_mem_hexadecimal (by decide) g

theorem writeGroups_cons_cons (g next : Nat) (groups : List Nat) :
    writeGroups (g :: next :: groups) =
      Text.hexadecimal g ++ ':' :: writeGroups (next :: groups) := by
  rw [writeGroups, List.map_cons, List.map_cons, List.intercalate_cons_cons, List.append_assoc]
  rfl

theorem exists_writeGroups_eq_cons (g : Nat) (groups : List Nat) :
    ∃ c cs, c ≠ ':' ∧ writeGroups (g :: groups) = c :: cs := by
  obtain ⟨c, cs, hcs⟩ := List.exists_cons_of_ne_nil (Text.hexadecimal_ne_nil g)
  have hc : c ≠ ':' := by
    rintro rfl
    exact colon_not_mem_hexadecimal g (hcs ▸ List.mem_cons_self)
  cases groups with
  | nil =>
      refine ⟨c, cs, hc, ?_⟩
      rw [writeGroups, List.map_singleton, List.intercalate_singleton, hcs]
  | cons next groups =>
      refine ⟨c, cs ++ ':' :: writeGroups (next :: groups), hc, ?_⟩
      rw [writeGroups_cons_cons, hcs]
      rfl

/-- Groups have no gap between them, so the gap of what follows is the first one. -/
theorem splitAtGap_writeGroups_append (cs : List Char) (behind : Option (List Char))
    (h : splitAtGap cs = behind.map fun behind => ([], behind)) (groups : List Nat) :
    splitAtGap (writeGroups groups ++ cs) =
      behind.map fun behind => (writeGroups groups, behind) := by
  induction groups with
  | nil => exact h
  | cons g groups ih =>
      have hpart := splitAtGap_append (colon_not_mem_hexadecimal g)
      cases groups with
      | nil =>
          have hone : writeGroups [g] = Text.hexadecimal g := List.intercalate_singleton
          rw [hone, hpart, h, Option.map_map]
          refine congrArg (fun f => behind.map f) (funext fun rest => ?_)
          exact Prod.ext (List.append_nil _) rfl
      | cons next groups =>
          obtain ⟨c, tail, hc, htail⟩ := exists_writeGroups_eq_cons next groups
          have hcolon := splitAtGap_colon_cons hc (tail ++ cs)
          rw [← List.cons_append, ← htail, ih] at hcolon
          rw [writeGroups_cons_cons, List.append_assoc, List.cons_append, hpart, hcolon,
            Option.map_map, Option.map_map]
          rfl

theorem splitAtGap_writeGroups (groups : List Nat) : splitAtGap (writeGroups groups) = none := by
  have hnone := splitAtGap_writeGroups_append [] none rfl groups
  rwa [List.append_nil] at hnone

/-! ## Eight groups -/

/-- Whether groups make up an address. -/
def IsEight (groups : List Nat) : Prop :=
  groups.length = 8 ∧ ∀ g ∈ groups, g < 65536

theorem lt_of_groupsWritten? {cs : List Char} {groups : List Nat}
    (h : groupsWritten? cs = some groups) : ∀ g ∈ groups, g < 65536 := by
  unfold groupsWritten? at h
  split at h
  · obtain rfl := Option.some.inj h
    exact fun g hg => absurd hg List.not_mem_nil
  · exact lt_of_groupsOf? h

/-- An address that was read has eight groups. -/
theorem isEight_of_readEight? {cs : List Char} {groups : List Nat}
    (h : readEight? cs = some groups) : IsEight groups := by
  unfold readEight? at h
  split at h
  · obtain ⟨hgroups, hlength⟩ := Option.filter_eq_some_iff.1 h
    exact ⟨by simpa using hlength, lt_of_groupsOf? hgroups⟩
  · next before behind _ =>
    simp only [Option.bind_eq_bind, Option.bind_eq_some_iff] at h
    obtain ⟨high, hhigh, low, hlow, h⟩ := h
    split at h
    · exact nomatch h
    · next hzeros =>
      obtain rfl := Option.some.inj h
      refine ⟨?_, fun g hg => ?_⟩
      · rw [List.length_append, List.length_append, List.length_replicate]
        omega
      · rcases List.mem_append.1 hg with hg | hg
        · rcases List.mem_append.1 hg with hg | hg
          · exact lt_of_groupsWritten? (Option.filter_eq_some_iff.1 hhigh).1 g hg
          · rw [List.eq_of_mem_replicate hg]
            decide
        · exact lt_of_groupsWritten? hlow g hg

theorem splitAtChar_writeGroups {groups : List Nat} (hne : groups ≠ []) :
    Text.splitAtChar ':' (writeGroups groups) = groups.map Text.hexadecimal := by
  rw [Text.splitAtChar_eq_splitOn]
  refine List.splitOn_intercalate ':' ?_ (mt List.map_eq_nil_iff.1 hne)
  intro part hpart
  obtain ⟨g, -, rfl⟩ := List.mem_map.1 hpart
  exact colon_not_mem_hexadecimal g

theorem groupsWritten?_writeGroups {groups : List Nat} (h : ∀ g ∈ groups, g < 65536) :
    groupsWritten? (writeGroups groups) = some groups := by
  cases groups with
  | nil => rfl
  | cons g groups =>
      obtain ⟨c, cs, -, hcs⟩ := exists_writeGroups_eq_cons g groups
      have hne : (writeGroups (g :: groups)).isEmpty = false := by rw [hcs]; rfl
      rw [groupsWritten?, hne, splitAtChar_writeGroups (List.cons_ne_nil g groups),
        groupsOf?_map_hexadecimal h]
      rfl

theorem mem_writeGroups {groups : List Nat} {c : Char} (h : c ∈ writeGroups groups) :
    c = ':' ∨ ∃ d < 16, c = Text.lowerDigit d := by
  refine (Text.mem_intercalate h).imp_right fun ⟨part, hpart, hc⟩ => ?_
  obtain ⟨g, -, rfl⟩ := List.mem_map.1 hpart
  exact Text.mem_hexadecimal hc

/-- The longest run of zeros is one, and begins where it is said to. -/
theorem exists_of_longestZeroRun {groups : List Nat} {position start length : Nat}
    (h : longestZeroRun position groups = (start, length)) :
    ∃ before after, groups = before ++ List.replicate length 0 ++ after ∧
      start = position + before.length := by
  induction groups generalizing position start length with
  | nil =>
      obtain ⟨rfl, rfl⟩ := Prod.mk.inj h
      exact ⟨[], [], rfl, rfl⟩
  | cons g groups ih =>
      rw [longestZeroRun] at h
      split at h
      · obtain ⟨rfl, rfl⟩ := Prod.mk.inj h
        refine ⟨[], (g :: groups).dropWhile (· == 0), ?_, rfl⟩
        have hzeros : (g :: groups).takeWhile (· == 0) =
            List.replicate (zeroRun (g :: groups)) 0 := by
          refine List.eq_replicate_iff.2 ⟨rfl, fun k hk => ?_⟩
          exact beq_iff_eq.1 (List.mem_takeWhile_imp (p := (· == 0)) hk)
        rw [List.nil_append, ← hzeros, List.takeWhile_append_dropWhile]
      · obtain ⟨before, after, hgroups, hstart⟩ := ih h
        refine ⟨g :: before, after, ?_, ?_⟩
        · rw [hgroups]
          rfl
        · rw [hstart, List.length_cons]
          omega

/-- How an address is written: its groups, or those before and behind a run of zeros. -/
theorem writeEight_cases (groups : List Nat) :
    writeEight groups = writeGroups groups ∨
      ∃ before after zeros, 0 < zeros ∧ groups = before ++ List.replicate zeros 0 ++ after ∧
        writeEight groups = writeGroups before ++ ':' :: ':' :: writeGroups after := by
  rcases hrun : longestZeroRun 0 groups with ⟨start, length⟩
  by_cases hlong : length < 2
  · refine .inl ?_
    simp only [writeEight, hrun, if_pos hlong]
  · obtain ⟨before, after, hgroups, hstart⟩ := exists_of_longestZeroRun hrun
    rw [Nat.zero_add] at hstart
    refine .inr ⟨before, after, length, by omega, hgroups, ?_⟩
    have htake : groups.take start = before := by
      rw [hgroups, List.append_assoc, hstart, List.take_left]
    have hdrop : groups.drop (start + length) = after := by
      have hlength : start + length = (before ++ List.replicate length 0).length := by
        rw [List.length_append, List.length_replicate, hstart]
      rw [hlength, hgroups, List.drop_left]
    simp only [writeEight, hrun, if_neg hlong, htake, hdrop, List.append_assoc, List.cons_append,
      List.nil_append]

/-- An address of eight groups is read back from what it is written as. -/
theorem readEight?_writeEight {groups : List Nat} (h : IsEight groups) :
    readEight? (writeEight groups) = some groups := by
  obtain ⟨hlength, hlt⟩ := h
  rcases writeEight_cases groups with hwrite | ⟨before, after, zeros, hpos, hgroups, hwrite⟩
  · have hne : groups ≠ [] := List.ne_nil_of_length_pos (by omega)
    rw [hwrite, readEight?, splitAtGap_writeGroups]
    simp only [splitAtChar_writeGroups hne, groupsOf?_map_hexadecimal hlt]
    simp [hlength]
  · have hbefore : ∀ g ∈ before, g < 65536 := fun g hg => hlt g (by simp [hgroups, hg])
    have hafter : ∀ g ∈ after, g < 65536 := fun g hg => hlt g (by simp [hgroups, hg])
    have hsum : before.length + zeros + after.length = 8 := by
      rw [← hlength, hgroups, List.length_append, List.length_append, List.length_replicate]
    have hdot : (!(writeGroups before).contains '.') = true := by
      rw [Bool.not_eq_true', Bool.eq_false_iff, Ne, List.contains_iff_mem]
      intro hmem
      rcases mem_writeGroups hmem with heq | ⟨d, hd, heq⟩
      · exact absurd heq (by decide)
      · revert d
        decide
    have hzeros : 8 - (before.length + after.length) = zeros := by omega
    have hgap := splitAtGap_writeGroups_append (':' :: ':' :: writeGroups after)
      (some (writeGroups after)) rfl before
    have hhigh : (groupsWritten? (writeGroups before)).filter
        (fun _ => !(writeGroups before).contains '.') = some before := by
      rw [groupsWritten?_writeGroups hbefore]
      exact if_pos hdot
    rw [hwrite, readEight?, hgap]
    simp only [Option.map_some, hhigh, groupsWritten?_writeGroups hafter, Option.bind_eq_bind,
      Option.bind_some, hzeros, if_neg (Nat.ne_of_gt hpos)]
    rw [hgroups]

theorem mem_writeEight {groups : List Nat} {c : Char} (h : c ∈ writeEight groups) :
    c = ':' ∨ ∃ d < 16, c = Text.lowerDigit d := by
  rcases writeEight_cases groups with hwrite | ⟨before, after, _, _, _, hwrite⟩
  · exact mem_writeGroups (hwrite ▸ h)
  · rw [hwrite] at h
    rcases List.mem_append.1 h with h | h
    · exact mem_writeGroups h
    · rcases List.mem_cons.1 h with h | h
      · exact .inl h
      · rcases List.mem_cons.1 h with h | h
        · exact .inl h
        · exact mem_writeGroups h

end Prospector.Url.Address
