import Mathlib.Algebra.Group.Nat.Defs
import Mathlib.Data.List.Induction
import Prospector.Proofs.Text.Parts
import Prospector.Text.Digit

/-!
# Numbers and their digits

A number is the value of its digits, most significant one first, and has as many as its size says.

## Main results

* `Text.ofDigits_reverse_digitsFrom` : the digits of a number have it as their value.
* `Text.decimalValue_decimal`, `Text.mapM_hexValue?_hexadecimal` : decimal and hexadecimal digits
  as characters.
-/

namespace Prospector.Text

/-! ## Digits -/

theorem ofDigits_concat (base : Nat) (digits : List Nat) (d : Nat) :
    ofDigits base (digits ++ [d]) = ofDigits base digits * base + d := by
  rw [ofDigits, List.foldl_append]
  rfl

theorem ofDigits_lt {base : Nat} {digits : List Nat} (h : ∀ d ∈ digits, d < base) :
    ofDigits base digits < base ^ digits.length := by
  induction digits using List.reverseRecOn with
  | nil => exact Nat.one_pos
  | append_singleton digits d ih =>
      have hrest := ih fun e he => h e (List.mem_append_left _ he)
      have hd : d < base := h d (List.mem_append_right _ List.mem_cons_self)
      rw [ofDigits_concat, List.length_append, List.length_singleton, Nat.pow_succ]
      calc ofDigits base digits * base + d
          < ofDigits base digits * base + base := Nat.add_lt_add_left hd _
        _ = (ofDigits base digits + 1) * base := (Nat.succ_mul _ _).symm
        _ ≤ base ^ digits.length * base := Nat.mul_le_mul_right _ hrest

variable {base fuel n : Nat}

/-- The digits of a number have it as their value. -/
theorem ofDigits_reverse_digitsFrom (h : n < base ^ fuel) :
    ofDigits base (digitsFrom base fuel n).reverse = n := by
  fun_induction digitsFrom base fuel n with
  | case1 n => exact (Nat.lt_one_iff.1 h).symm
  | case2 fuel n _ => exact (congrArg (· + n) (Nat.zero_mul base)).trans (Nat.zero_add n)
  | case3 fuel n hle ih =>
      rw [List.reverse_cons, ofDigits_concat, ih (Nat.div_lt_of_lt_mul (Nat.pow_succ' ▸ h))]
      exact Nat.div_add_mod' n base

theorem lt_of_mem_digitsFrom (hbase : 0 < base) : ∀ d ∈ digitsFrom base fuel n, d < base := by
  fun_induction digitsFrom base fuel n with
  | case1 => exact fun d hd => absurd hd List.not_mem_nil
  | case2 fuel n hlt =>
      intro d hd
      rw [List.mem_singleton.1 hd]
      exact hlt
  | case3 fuel n _ ih =>
      intro d hd
      rcases List.mem_cons.1 hd with rfl | hd
      · exact Nat.mod_lt n hbase
      · exact ih d hd

theorem length_digitsFrom_le {k : Nat} (h : n < base ^ (k + 1)) :
    (digitsFrom base fuel n).length ≤ k + 1 := by
  fun_induction digitsFrom base fuel n generalizing k with
  | case1 => exact Nat.zero_le _
  | case2 => exact Nat.le_add_left 1 k
  | case3 fuel n hle ih =>
      cases k with
      | zero =>
          rw [Nat.zero_add, Nat.pow_one] at h
          exact absurd h hle
      | succ k => exact Nat.succ_le_succ (ih (Nat.div_lt_of_lt_mul (Nat.pow_succ' ▸ h)))

theorem digitsFrom_succ_ne_nil : digitsFrom base (fuel + 1) n ≠ [] := by
  rw [digitsFrom]
  split <;> exact List.cons_ne_nil _ _

/-- The first digit of a number that is not zero is not zero. -/
theorem exists_digitsFrom_reverse_eq_cons (hn : n ≠ 0) (h : n < base ^ fuel) :
    ∃ d rest, (digitsFrom base fuel n).reverse = d :: rest ∧ d ≠ 0 := by
  fun_induction digitsFrom base fuel n with
  | case1 n => exact absurd (Nat.lt_one_iff.1 h) hn
  | case2 fuel n _ => exact ⟨n, [], rfl, hn⟩
  | case3 fuel n hle ih =>
      have hbase : 0 < base := by
        rcases Nat.eq_zero_or_pos base with rfl | hpos
        · rw [Nat.zero_pow (Nat.succ_pos fuel)] at h
          exact absurd h (Nat.not_lt_zero n)
        · exact hpos
      have hquotient : n / base ≠ 0 := Nat.div_ne_zero_iff.2 ⟨Nat.ne_of_gt hbase, Nat.not_lt.1 hle⟩
      obtain ⟨d, rest, hdigits, hd⟩ := ih hquotient (Nat.div_lt_of_lt_mul (Nat.pow_succ' ▸ h))
      exact ⟨d, rest ++ [n % base], by rw [List.reverse_cons, hdigits, List.cons_append], hd⟩

/-- A number that is not zero has no more digits than its size asks for. -/
theorem pow_length_digitsFrom_le (hbase : 0 < base) (hn : n ≠ 0) :
    base ^ ((digitsFrom base fuel n).length - 1) ≤ n := by
  fun_induction digitsFrom base fuel n with
  | case1 n => exact Nat.one_le_iff_ne_zero.2 hn
  | case2 fuel n _ => exact Nat.one_le_iff_ne_zero.2 hn
  | case3 fuel n hle ih =>
      have hquotient : n / base ≠ 0 :=
        Nat.div_ne_zero_iff.2 ⟨Nat.ne_of_gt hbase, Nat.not_lt.1 hle⟩
      have hrest := ih hquotient
      rw [List.length_cons, Nat.add_sub_cancel]
      cases hlength : (digitsFrom base fuel (n / base)).length with
      | zero => exact Nat.one_le_iff_ne_zero.2 hn
      | succ k =>
          rw [hlength, Nat.add_sub_cancel] at hrest
          calc base ^ (k + 1) = base ^ k * base := Nat.pow_succ ..
            _ ≤ n / base * base := Nat.mul_le_mul_right base hrest
            _ ≤ n := Nat.div_mul_le_self n base

theorem lt_pow_log2_succ (hbase : 2 ≤ base) (n : Nat) : n < base ^ (n.log2 + 1) :=
  Nat.lt_of_lt_of_le Nat.lt_log2_self (Nat.pow_le_pow_left hbase _)

/-! ## Decimal numbers -/

theorem ne_of_isDigit {c d : Char} (hc : isDigit c = true) (hd : isDigit d = false) : c ≠ d := by
  rintro rfl
  rw [hc] at hd
  cases hd

theorem decimal_ne_nil (n : Nat) : decimal n ≠ [] := by
  rw [decimal, Ne, List.reverse_eq_nil_iff, List.map_eq_nil_iff]
  exact digitsFrom_succ_ne_nil

theorem mem_decimal {n : Nat} {c : Char} (h : c ∈ decimal n) : ∃ d < 10, c = lowerDigit d := by
  obtain ⟨d, hd, rfl⟩ := List.mem_map.1 (List.mem_reverse.1 h)
  exact ⟨d, lt_of_mem_digitsFrom (by decide) d hd, rfl⟩

theorem isDigit_of_mem_decimal {n : Nat} {c : Char} (h : c ∈ decimal n) : isDigit c = true := by
  have hdigit : ∀ d < 10, isDigit (lowerDigit d) = true := by decide
  obtain ⟨d, hd, rfl⟩ := mem_decimal h
  exact hdigit d hd

/-- A number that is not zero does not begin with a zero. -/
theorem head?_decimal_ne {n : Nat} (h : n ≠ 0) : (decimal n).head? ≠ some '0' := by
  obtain ⟨d, rest, hdigits, hd⟩ :=
    exists_digitsFrom_reverse_eq_cons h (lt_pow_log2_succ (by decide : 2 ≤ 10) n)
  have hlt : d < 10 := by
    apply lt_of_mem_digitsFrom (by decide : 0 < 10) d
    rw [← List.mem_reverse, hdigits]
    exact List.mem_cons_self
  have hne : ∀ d < 10, d ≠ 0 → lowerDigit d ≠ '0' := by decide
  rw [decimal, ← List.map_reverse, hdigits, List.map_cons]
  exact fun h => hne d hlt hd (Option.some.inj h)

theorem length_decimal_le {n k : Nat} (h : n < 10 ^ (k + 1)) : (decimal n).length ≤ k + 1 := by
  rw [decimal, List.length_reverse, List.length_map]
  exact length_digitsFrom_le h

theorem pow_length_decimal_le {n : Nat} (h : n ≠ 0) : 10 ^ ((decimal n).length - 1) ≤ n := by
  rw [decimal, List.length_reverse, List.length_map]
  exact pow_length_digitsFrom_le (by decide) h

theorem decimalValue_decimal (n : Nat) : decimalValue (decimal n) = n := by
  have hvalue : ∀ d < 10, (lowerDigit d).toNat - 48 = d := by decide
  have hdigits : (decimal n).map (fun c => c.toNat - 48) =
      (digitsFrom 10 (n.log2 + 1) n).reverse := by
    rw [decimal, ← List.map_reverse, List.map_map]
    refine (List.map_congr_left fun d hd => ?_).trans (List.map_id _)
    exact hvalue d (lt_of_mem_digitsFrom (by decide) d (List.mem_reverse.1 hd))
  rw [decimalValue, hdigits]
  exact ofDigits_reverse_digitsFrom (lt_pow_log2_succ (by decide) n)

/-! ## Hexadecimal numbers -/

theorem hexValue?_lowerDigit {d : Nat} (h : d < 16) : hexValue? (lowerDigit d) = some d := by
  revert d
  decide

theorem lt_of_hexValue? {c : Char} {d : Nat} (h : hexValue? c = some d) : d < 16 := by
  have hle : ∀ a b : Char, (decide (a ≤ c) && decide (c ≤ b)) = true → c.toNat ≤ b.toNat :=
    fun a b hrange => of_decide_eq_true (Bool.and_eq_true_iff.1 hrange).2
  unfold hexValue? at h
  split at h
  · next hrange =>
    have hhigh : c.toNat ≤ 57 := hle _ _ hrange
    have hd := Option.some.inj h
    omega
  · split at h
    · next hrange =>
      have hhigh : c.toNat ≤ 102 := hle _ _ hrange
      have hd := Option.some.inj h
      omega
    · split at h
      · next hrange =>
        have hhigh : c.toNat ≤ 70 := hle _ _ hrange
        have hd := Option.some.inj h
        omega
      · exact nomatch h

theorem hexadecimal_ne_nil (n : Nat) : hexadecimal n ≠ [] := by
  rw [hexadecimal, Ne, List.reverse_eq_nil_iff, List.map_eq_nil_iff]
  exact digitsFrom_succ_ne_nil

theorem mem_hexadecimal {n : Nat} {c : Char} (h : c ∈ hexadecimal n) :
    ∃ d < 16, c = lowerDigit d := by
  obtain ⟨d, hd, rfl⟩ := List.mem_map.1 (List.mem_reverse.1 h)
  exact ⟨d, lt_of_mem_digitsFrom (by decide) d hd, rfl⟩

theorem mapM_hexValue?_hexadecimal (n : Nat) :
    (hexadecimal n).mapM hexValue? = some (digitsFrom 16 (n.log2 + 1) n).reverse := by
  rw [hexadecimal, ← List.map_reverse]
  refine mapM_map_eq_some fun d hd => hexValue?_lowerDigit ?_
  exact lt_of_mem_digitsFrom (by decide) d (List.mem_reverse.1 hd)

theorem length_hexadecimal_le {n k : Nat} (h : n < 16 ^ (k + 1)) :
    (hexadecimal n).length ≤ k + 1 := by
  rw [hexadecimal, List.length_reverse, List.length_map]
  exact length_digitsFrom_le h

end Prospector.Text
