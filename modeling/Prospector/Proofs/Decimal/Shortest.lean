import Mathlib.Data.List.DropRight
import Prospector.Decimal.Shortest
import Prospector.Proofs.Text.Digit

/-!
# The digits of the shortest text

The search for the shortest digits ends with a grid that meets the interval of a number, or with a
grid of seventeen digits that does not. The second case matters only for the text if it leaves a
zero with further digits before the point; but where seventeen digits end before the point, the grid
is finer than the numbers are, so its nearest point lies in the interval.

## Main results

* `Decimal.exponent_nonpos_of_shortestDigits` : a zero is never followed by digits before the point.
* `Decimal.significantDigits_of_ne_zero` : the digits that are kept are a beginning of all digits.
-/

namespace Prospector.Decimal

/-! ## Grids -/

theorem roundHalfEven_bounds (num : Nat) {den : Nat} (hden : 0 < den) :
    2 * (Binary64.roundHalfEven num den * den) ≤ 2 * num + den ∧
      2 * num ≤ 2 * (Binary64.roundHalfEven num den * den) + den := by
  have hdiv : num / den * den + num % den = num := Nat.div_add_mod' num den
  have hmod : num % den < den := Nat.mod_lt num hden
  unfold Binary64.roundHalfEven
  simp only
  split
  · next hup =>
    have hhalf : den ≤ 2 * (num % den) := by
      simp only [Bool.or_eq_true, Bool.and_eq_true, decide_eq_true_eq, beq_iff_eq] at hup
      omega
    have hnext : (num / den + 1) * den = num / den * den + den := Nat.succ_mul _ _
    omega
  · next hdown =>
    have hhalf : 2 * (num % den) ≤ den := by
      simp only [Bool.or_eq_true, decide_eq_true_eq, not_or] at hdown
      omega
    omega

/-- What a search for digits comes to: a grid that meets the interval, or the last grid if it does
not. -/
theorem searchDigits_cases (i : Interval) (lead : Int) (fuel count : Nat) :
    i.hit? (searchDigits i lead fuel count).2 = some (searchDigits i lead fuel count).1 ∨
      i.hit? (lead - (count + fuel : Nat) + 1) = none ∧
        searchDigits i lead fuel count = (0, lead - (count + fuel : Nat) + 1) := by
  induction fuel generalizing count with
  | zero =>
      unfold searchDigits
      simp only [Nat.add_zero]
      cases hhit : i.hit? (lead - count + 1) with
      | some digits => exact .inl rfl
      | none => exact .inr ⟨rfl, rfl⟩
  | succ fuel ih =>
      unfold searchDigits
      simp only
      cases hhit : i.hit? (lead - count + 1) with
      | some digits => exact .inl hhit
      | none =>
          have hcount : count + 1 + fuel = count + (fuel + 1) := by omega
          rw [← hcount]
          exact ih (count + 1)

theorem holds_zero {i : Interval} (hlow : 0 < i.low) {den : Nat} (hden : 0 < den) :
    i.holds 0 den = false := by
  have hpos : 0 < i.low * den := Nat.mul_pos hlow hden
  unfold Interval.holds
  simp only [Nat.zero_mul]
  split
  · rw [decide_eq_false_iff_not]
    omega
  · rw [decide_eq_false_iff_not]
    omega

/-- A grid that meets an interval above zero meets it above zero. -/
theorem ne_zero_of_hit? {i : Interval} (hlow : 0 < i.low) {e : Int} {digits : Nat}
    (h : i.hit? e = some digits) : digits ≠ 0 := by
  have hinside : ∀ up down : Nat, 0 < down → i.holds (digits * up) down = true → digits ≠ 0 := by
    rintro up down hdown hholds rfl
    rw [Nat.zero_mul, holds_zero hlow hdown] at hholds
    cases hholds
  obtain ⟨up, down, hdown, hscale⟩ : ∃ up down : Nat, 0 < down ∧ (if 0 ≤ e then
      (Nat.pow 10 e.toNat, 1) else (1, Nat.pow 10 (-e).toNat)) = (up, down) := by
    split
    · exact ⟨_, _, Nat.one_pos, rfl⟩
    · exact ⟨_, _, Nat.pow_pos (by decide), rfl⟩
  unfold Interval.hit? at h
  rw [hscale] at h
  simp only at h
  split at h
  · next hnearest => exact hinside up down hdown (Option.some.inj h ▸ hnearest)
  · split at h
    · next hbelow => exact hinside up down hdown (Option.some.inj h ▸ hbelow)
    · split at h
      · next habove => exact hinside up down hdown (Option.some.inj h ▸ habove)
      · cases h

/-! ## Numbers before the point -/

/-- The first digit of a number is where its size says. -/
theorem leadingExponent_le {num den : Nat} {lead : Nat} (h : leadingExponent num den = lead) :
    10 ^ lead ≤ num / den := by
  unfold leadingExponent at h
  simp only at h
  split at h
  · next hwhole =>
    have hlength : (Text.decimal (num / den)).length - 1 = lead := by omega
    rw [← hlength]
    exact Text.pow_length_decimal_le (Nat.ne_of_gt hwhole)
  · next hwhole =>
    have hzero : num / den = 0 := Nat.eq_zero_of_not_pos hwhole
    have hsmall :
        num * Nat.pow 10 ((den / num).log2 + 2) / den < 10 ^ ((den / num).log2 + 1 + 1) := by
      rcases Nat.eq_zero_or_pos den with rfl | hden
      · rw [Nat.div_zero]
        exact Nat.pow_pos (by decide)
      · apply Nat.div_lt_of_lt_mul
        have hlt : num < den := (Nat.div_eq_zero_iff_lt hden).1 hzero
        exact Nat.mul_lt_mul_of_pos_right hlt (Nat.pow_pos (by decide))
    have hlength := Text.length_decimal_le hsmall
    omega

theorem significand_lt (x : Binary64) : x.significand < 2 ^ 53 := by
  have hfield : x.magnitude % Nat.pow 2 52 < Nat.pow 2 52 := Nat.mod_lt _ (Nat.pow_pos (by decide))
  have hpow : Nat.pow 2 52 + Nat.pow 2 52 = 2 ^ 53 := rfl
  unfold Binary64.significand
  split
  · omega
  · omega

/-- The interval of a number that has seventeen digits before the point: the number is a multiple of
a power of two, and the interval reaches half of it up, and down half of it or, at the least number
of a binade, a quarter. -/
theorem around_of_large {x : Binary64}
    (h : 10 ^ 17 ≤ (Interval.around x).value / (Interval.around x).unit) :
    ∃ unit down : Nat, (down = 2 ∨ down = 1 ∧ x.significand = 2 ^ 52) ∧
      (Interval.around x).low = (4 * x.significand - down) * unit ∧
        (Interval.around x).value = 4 * x.significand * unit ∧
          (Interval.around x).high = (4 * x.significand + 2) * unit ∧
            (Interval.around x).unit = 4 := by
  have hsize := significand_lt x
  have hexponent : 0 ≤ x.exponent := by
    by_contra hneg
    have hscaled : Binary64.scaled 1 x.exponent = (1, Nat.pow 2 (-x.exponent).toNat) := if_neg hneg
    simp only [Interval.around, hscaled, Nat.mul_one] at h
    rw [Nat.mul_div_mul_left _ _ (by decide : 0 < 4)] at h
    have hle := Nat.div_le_self x.significand (Nat.pow 2 (-x.exponent).toNat)
    omega
  have hscaled : Binary64.scaled 1 x.exponent = (1 * Nat.pow 2 x.exponent.toNat, 1) :=
    if_pos hexponent
  refine ⟨1 * Nat.pow 2 x.exponent.toNat,
    if decide (x.significand = Nat.pow 2 52 ∧ 1 < x.exponentField) then 1 else 2, ?_, ?_⟩
  · by_cases hnarrow : x.significand = Nat.pow 2 52 ∧ 1 < x.exponentField
    · rw [decide_eq_true hnarrow]
      exact .inr ⟨rfl, hnarrow.1⟩
    · rw [decide_eq_false hnarrow]
      exact .inl rfl
  · simp only [Interval.around, hscaled, Nat.mul_one, and_self]

/-- Where seventeen digits end before the point, the nearest of them lies in the interval of the
number. -/
theorem hit?_ne_none {x : Binary64} {e : Nat} (he : 1 ≤ e)
    (hlead : leadingExponent (Interval.around x).value (Interval.around x).unit = (e + 16 : Nat)) :
    (Interval.around x).hit? e ≠ none := by
  have hwhole := leadingExponent_le hlead
  have hlarge : 10 ^ 17 ≤ (Interval.around x).value / (Interval.around x).unit :=
    Nat.le_trans (Nat.pow_le_pow_right (by decide) (by omega)) hwhole
  obtain ⟨unit, down, hdown, hlow, hvalue, hhigh, hunit⟩ := around_of_large hlarge
  have hsize := significand_lt x
  generalize hgrid : Nat.pow 10 e = grid
  -- The grid is finer than half a step, and than a quarter of it where the interval is narrow.
  have hcoarse : 10 ^ 16 * grid ≤ x.significand * unit := by
    rw [hvalue, hunit, Nat.mul_assoc, Nat.mul_div_cancel_left _ (by decide)] at hwhole
    calc 10 ^ 16 * grid = 10 ^ (e + 16) := by rw [← hgrid, Nat.pow_add, Nat.mul_comm]; rfl
      _ ≤ x.significand * unit := hwhole
  have hpos : 0 < grid := hgrid ▸ Nat.pow_pos (by decide)
  have hstep : 2 * grid < down * unit ∧ 2 * grid < 2 * unit := by
    have hle : x.significand * unit ≤ 2 ^ 53 * unit :=
      Nat.mul_le_mul_right unit (Nat.le_of_lt hsize)
    rcases hdown with rfl | ⟨rfl, hnarrow⟩
    · omega
    · rw [hnarrow] at hcoarse
      omega
  have hpoint := roundHalfEven_bounds (Interval.around x).value
    (show 0 < 4 * grid from Nat.mul_pos (by decide) hpos)
  have hinside : (Interval.around x).holds
      (Binary64.roundHalfEven (Interval.around x).value (4 * grid) * grid) 1 = true := by
    generalize Binary64.roundHalfEven (Interval.around x).value (4 * grid) = n at hpoint
    have hn : n * grid * 4 = n * (4 * grid) := by rw [Nat.mul_assoc, Nat.mul_comm grid]
    have hvalue' : (Interval.around x).value = 4 * (x.significand * unit) := by
      rw [hvalue, Nat.mul_assoc]
    have hlow' : (Interval.around x).low = (Interval.around x).value - down * unit := by
      rw [hlow, hvalue, Nat.sub_mul]
    have hhigh' : (Interval.around x).high = (Interval.around x).value + 2 * unit := by
      rw [hhigh, hvalue, Nat.add_mul]
    unfold Interval.holds
    simp only [hunit, Nat.mul_one, hn, hlow', hhigh']
    split
    · rw [decide_eq_true_iff]
      omega
    · rw [decide_eq_true_iff]
      omega
  unfold Interval.hit?
  have hscale : (if (0 : Int) ≤ (e : Int) then (Nat.pow 10 (e : Int).toNat, 1)
      else (1, Nat.pow 10 (-(e : Int)).toNat)) = (grid, 1) := by
    rw [if_pos (Int.natCast_nonneg e), Int.toNat_natCast, hgrid]
  rw [hscale]
  simp only [Nat.mul_one, hunit]
  rw [if_pos hinside]
  exact Option.some_ne_none _

/-! ## The digits of a number -/

theorem low_around_pos {x : Binary64} (h : x.magnitude ≠ 0) : 0 < (Interval.around x).low := by
  have hsignificand : 0 < x.significand := by
    have hdiv : Nat.pow 2 52 * (x.magnitude / Nat.pow 2 52) + x.magnitude % Nat.pow 2 52 =
      x.magnitude := Nat.div_add_mod _ _
    have hpow : 0 < Nat.pow 2 52 := Nat.pow_pos (by decide)
    unfold Binary64.significand Binary64.exponentField
    split
    · next hfield =>
      rw [hfield, Nat.mul_zero, Nat.zero_add] at hdiv
      omega
    · omega
  have hscale : 0 < (Binary64.scaled 1 x.exponent).1 := by
    unfold Binary64.scaled
    split
    · exact Nat.mul_pos Nat.one_pos (Nat.pow_pos (by decide))
    · exact Nat.one_pos
  refine Nat.mul_pos ?_ hscale
  split
  · omega
  · omega

/-- A zero is never followed by digits before the point. -/
theorem exponent_nonpos_of_shortestDigits {x : Binary64} (hx : x.magnitude ≠ 0)
    (h : (shortestDigits x).1 = 0) : (shortestDigits x).2 ≤ 0 := by
  unfold shortestDigits at h ⊢
  simp only at h ⊢
  generalize hlead :
    leadingExponent (Interval.around x).value (Interval.around x).unit = lead at h ⊢
  rcases searchDigits_cases (Interval.around x) lead 16 1 with hhit | ⟨hnone, hdigits⟩
  · exact absurd h (ne_zero_of_hit? (low_around_pos hx) hhit)
  · rw [hdigits]
    by_contra hlarge
    obtain ⟨e, he⟩ := Int.eq_ofNat_of_zero_le (show 0 ≤ lead - 16 by omega)
    have hexponent : lead - ((1 + 16 : Nat) : Int) + 1 = e := by omega
    rw [hexponent] at hnone
    exact hit?_ne_none (by omega) (hlead.trans (by omega)) hnone

/-- The digits that are kept of a number are a beginning of its digits. -/
theorem significantDigits_of_ne_zero {digits : Nat} (h : digits ≠ 0) (exponent : Int) :
    (significantDigits digits exponent).1 ≠ [] ∧
      (significantDigits digits exponent).1 <+: Text.decimal digits := by
  have hne : (Text.decimal digits).rdropWhile (· == '0') ≠ [] := by
    obtain ⟨c, rest, hdecimal⟩ := List.exists_cons_of_ne_nil (Text.decimal_ne_nil digits)
    have hmem : c ∈ Text.decimal digits := hdecimal ▸ List.mem_cons_self
    have hhead : (Text.decimal digits).head? = some c := hdecimal ▸ rfl
    intro hnil
    have hzero : c = '0' := beq_iff_eq.1 (List.rdropWhile_eq_nil_iff.1 hnil c hmem)
    exact Text.head?_decimal_ne h (hzero ▸ hhead)
  have hdigits : (significantDigits digits exponent).1 =
      (Text.decimal digits).rdropWhile (· == '0') :=
    if_neg fun hnil => hne (List.isEmpty_iff.1 hnil)
  rw [hdigits]
  exact ⟨hne, List.rdropWhile_prefix _ _⟩

end Prospector.Decimal
