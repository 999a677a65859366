import Prospector.Json.Printer
import Prospector.Proofs.Decimal.Shortest
import Prospector.Proofs.Json.Literal

/-!
# The literals that numbers are written as

An integer is written as its digits. A floating-point number is written as the shortest digits that
name it, with a point behind the position that its size gives or with an exponent; either way the
text is a number literal, because the digits begin with a zero only if there is no other digit and
none of them stands before the point.

## Main definitions

* `Json.Literal.ofInt`, `Json.Literal.ofFloat` : the literal of a number.

## Main results

* `Json.Literal.isProper_ofInt`, `Json.Literal.isProper_ofFloat` : both are numbers of JSON.
* `Json.Literal.written_ofInt`, `Json.Literal.written_ofFloat` : numbers are written as their
  literals.
-/

namespace Prospector.Json

theorem isDigits_decimal (n : Nat) : IsDigits (Text.decimal n) :=
  ⟨Text.decimal_ne_nil n, fun _ hc => Text.isDigit_of_mem_decimal hc⟩

theorem isDigits_zero : IsDigits ['0'] :=
  ⟨List.cons_ne_nil _ _, List.forall_mem_singleton.2 rfl⟩

theorem isDigits_append {digits rest : List Char} (h : IsDigits digits)
    (hrest : ∀ c ∈ rest, Text.isDigit c = true) : IsDigits (digits ++ rest) :=
  ⟨List.append_ne_nil_of_left_ne_nil h.1 rest, List.forall_mem_append.2 ⟨h.2, hrest⟩⟩

theorem isDigits_of_start {digits start : List Char} (h : IsDigits digits)
    (hstart : start <+: digits)
    (hne : start ≠ []) : IsDigits start :=
  ⟨hne, fun c hc => h.2 c (hstart.subset hc)⟩

theorem isDigit_of_mem_zeros {n : Nat} {c : Char} (h : c ∈ List.replicate n '0') :
    Text.isDigit c = true := by
  rw [List.eq_of_mem_replicate h]
  rfl

namespace Literal

/-! ## Integers -/

/-- The literal that an integer is written as. -/
def ofInt (n : Int) : Literal :=
  { negative := decide (n < 0), whole := Text.decimal n.natAbs }

theorem written_ofInt (n : Int) : (ofInt n).written = integer n := by
  by_cases h : n < 0
  · simp [ofInt, written, integer, h]
  · simp [ofInt, written, integer, h]

theorem isProper_ofInt (n : Int) : (ofInt n).IsProper where
  whole := isDigits_decimal n.natAbs
  zero h := by
    by_cases hzero : n.natAbs = 0
    · rw [ofInt, hzero]
      rfl
    · exact absurd h (Text.head?_decimal_ne hzero)
  fraction := nofun
  exponent := nofun
  sign _ := rfl

/-! ## Digits with a point or an exponent -/

/-- The literal of digits with the point behind a position. -/
def positional (digits : List Char) (lead : Int) : Literal :=
  if lead < 0 then
    { whole := ['0'], fraction := some (List.replicate ((-lead).toNat - 1) '0' ++ digits) }
  else
    let whole := lead.toNat + 1
    if digits.length ≤ whole then
      { whole := digits ++ List.replicate (whole - digits.length) '0', fraction := some ['0'] }
    else { whole := digits.take whole, fraction := some (digits.drop whole) }

/-- The literal of digits with the point behind the first one and an exponent. -/
def scientific (digits : List Char) (lead : Int) : Literal :=
  { whole := digits.take 1
    fraction := if digits.length ≤ 1 then none else some (digits.drop 1)
    exponentNegative := decide (lead < 0)
    exponent := some (Text.decimal lead.natAbs) }

theorem written_positional (digits : List Char) (lead : Int) :
    (positional digits lead).written = Decimal.positional digits lead := by
  unfold positional Decimal.positional
  split
  · simp [written]
  · simp only
    split
    · simp [written]
    · simp [written]

theorem written_scientific {digits : List Char} (h : digits ≠ []) (lead : Int) :
    (scientific digits lead).written = Decimal.scientific digits lead := by
  have hpower : (if decide (lead < 0) then ['-'] else []) ++ Text.decimal lead.natAbs =
      if lead < 0 then '-' :: Text.decimal (-lead).toNat else Text.decimal lead.toNat := by
    by_cases hneg : lead < 0
    · have habs : lead.natAbs = (-lead).toNat := by omega
      simp [hneg, habs]
    · have habs : lead.natAbs = lead.toNat := by omega
      simp [hneg, habs]
  unfold scientific Decimal.scientific written
  simp only [hpower]
  match digits, h with
  | [first], _ => simp
  | first :: second :: rest, _ => simp

section Proper

variable {digits : List Char} (hdigits : IsDigits digits) {lead : Int}

include hdigits

theorem isProper_positional (hzero : digits.head? = some '0' → digits = ['0'] ∧ lead ≤ 0) :
    (positional digits lead).IsProper := by
  unfold positional
  split
  · refine ⟨isDigits_zero, fun _ => rfl, fun fraction h => ?_, nofun, fun _ => rfl⟩
    obtain rfl := Option.some.inj h
    exact ⟨List.append_ne_nil_of_right_ne_nil _ hdigits.1,
      List.forall_mem_append.2 ⟨fun c hc => isDigit_of_mem_zeros hc, hdigits.2⟩⟩
  · next hlead =>
    simp only
    split
    · refine ⟨isDigits_append hdigits fun c hc => isDigit_of_mem_zeros hc, fun h => ?_,
        fun fraction h => ?_, nofun, fun _ => rfl⟩
      · rw [List.head?_append_of_ne_nil _ hdigits.1] at h
        obtain ⟨rfl, hle⟩ := hzero h
        obtain rfl : lead = 0 := by omega
        rfl
      · obtain rfl := Option.some.inj h
        exact isDigits_zero
    · next hlong =>
      have htake : digits.take (lead.toNat + 1) ≠ [] := by
        rw [Ne, List.take_eq_nil_iff]
        rintro (h | h)
        · exact Nat.succ_ne_zero _ h
        · exact hdigits.1 h
      have hstart : digits.take (lead.toNat + 1) <+: digits := List.take_prefix _ _
      refine ⟨isDigits_of_start hdigits hstart htake, fun h => ?_,
        fun fraction h => ?_, nofun, fun _ => rfl⟩
      · rw [List.head?_take, if_neg (Nat.succ_ne_zero _)] at h
        obtain ⟨rfl, -⟩ := hzero h
        exact absurd (Nat.le_add_left 1 _) hlong
      · obtain rfl := Option.some.inj h
        refine ⟨fun hnil => hlong (List.drop_eq_nil_iff.1 hnil), fun c hc => ?_⟩
        exact hdigits.2 c (List.mem_of_mem_drop hc)

theorem isProper_scientific (lead : Int) : (scientific digits lead).IsProper := by
  obtain ⟨hne, hall⟩ := hdigits
  obtain ⟨first, rest, rfl⟩ := List.exists_cons_of_ne_nil hne
  obtain ⟨hfirst, hrest⟩ := List.forall_mem_cons.1 hall
  refine ⟨⟨List.cons_ne_nil _ _, List.forall_mem_singleton.2 hfirst⟩, fun h => ?_,
    fun fraction h => ?_, fun exponent h => ?_, nofun⟩
  · rw [show (scientific (first :: rest) lead).whole = [first] from rfl] at h ⊢
    rw [Option.some.inj h]
  · unfold scientific at h
    simp only at h
    split at h
    · cases h
    · next hlong =>
      obtain rfl := Option.some.inj h
      refine ⟨fun hnil => hlong ?_, hrest⟩
      rw [show rest = [] from hnil]
      rfl
  · obtain rfl := Option.some.inj h
    exact isDigits_decimal lead.natAbs

end Proper

/-! ## Floating-point numbers -/

/-- The literal that the size of a finite number is written as. -/
def ofSize (x : Binary64) : Literal :=
  if x.magnitude = 0 then { whole := ['0'], fraction := some ['0'] }
  else
    let (digits, exponent) := Decimal.shortestDigits x
    let (kept, lead) := Decimal.significantDigits digits exponent
    if -4 ≤ lead && lead < 16 then positional kept lead else scientific kept lead

/-- The literal that a finite number is written as. -/
def ofFloat (x : Binary64) : Literal :=
  { ofSize x with negative := x.isNegative }

/-- The digits of a number begin with a zero only if they are one zero that is not followed by
digits before the point. -/
theorem significantDigits_shortestDigits {x : Binary64} (hx : x.magnitude ≠ 0)
    {kept : List Char} {lead : Int} (h : Decimal.significantDigits (Decimal.shortestDigits x).1
      (Decimal.shortestDigits x).2 = (kept, lead)) :
    IsDigits kept ∧ (kept.head? = some '0' → kept = ['0'] ∧ lead ≤ 0) := by
  by_cases hdigits : (Decimal.shortestDigits x).1 = 0
  · have hexponent := Decimal.exponent_nonpos_of_shortestDigits hx hdigits
    rw [hdigits] at h
    obtain ⟨rfl, rfl⟩ := Prod.mk.inj h
    refine ⟨isDigits_zero, fun _ => ⟨rfl, ?_⟩⟩
    have hlength : (Text.decimal 0).length = 1 := rfl
    omega
  · have hkept := Decimal.significantDigits_of_ne_zero hdigits (Decimal.shortestDigits x).2
    rw [h] at hkept
    obtain ⟨hne, hstart⟩ := hkept
    refine ⟨isDigits_of_start (isDigits_decimal _) hstart hne, fun hhead => ?_⟩
    obtain ⟨rest, hrest⟩ := hstart
    refine absurd ?_ (Text.head?_decimal_ne hdigits)
    rw [← hrest, List.head?_append_of_ne_nil _ hne, hhead]

theorem isProper_ofFloat (x : Binary64) : (ofFloat x).IsProper := by
  have hsize : (ofSize x).IsProper := by
    unfold ofSize
    split
    · refine ⟨isDigits_zero, fun _ => rfl, fun fraction h => ?_, nofun, fun _ => rfl⟩
      obtain rfl := Option.some.inj h
      exact isDigits_zero
    · next hx =>
      simp only
      obtain ⟨hdigits, hzero⟩ := significantDigits_shortestDigits hx rfl
      split
      · exact isProper_positional hdigits hzero
      · exact isProper_scientific hdigits _
  exact ⟨hsize.whole, hsize.zero, hsize.fraction, hsize.exponent, hsize.sign⟩

theorem written_ofFloat (x : Binary64) : (ofFloat x).written = (Decimal.shortest x).toList := by
  have hsize : (ofSize x).negative = false ∧ (ofSize x).written =
      if x.magnitude = 0 then ['0', '.', '0']
      else
        let (digits, exponent) := Decimal.shortestDigits x
        let (kept, lead) := Decimal.significantDigits digits exponent
        if -4 ≤ lead && lead < 16 then Decimal.positional kept lead
        else Decimal.scientific kept lead := by
    unfold ofSize
    split
    · exact ⟨rfl, rfl⟩
    · next hx =>
      simp only
      obtain ⟨hdigits, -⟩ := significantDigits_shortestDigits hx rfl
      split
      · refine ⟨?_, written_positional _ _⟩
        unfold positional
        split
        · rfl
        · simp only
          split <;> rfl
      · exact ⟨rfl, written_scientific hdigits.1 _⟩
  obtain ⟨hnegative, hbody⟩ := hsize
  have hsign : (ofFloat x).written =
      (if x.isNegative then ['-'] else []) ++ (ofSize x).written := by
    rw [ofFloat, written, written, hnegative]
    simp only [Bool.false_eq_true, if_false, List.nil_append, List.append_assoc]
  rw [hsign, hbody, Decimal.shortest, String.toList_ofList]
  cases x.isNegative with
  | true => rfl
  | false => rfl

end Literal

end Prospector.Json
