import Prospector.Proofs.Json.Scan

/-!
# Written number literals

A number literal is one token, whatever ends it: the machine that cuts a text into tokens goes
through the parts of the literal in their order and keeps the digits of each.

## Main definitions

* `Json.Literal.written` : a literal as text.
* `Json.Literal.IsProper` : whether that text is a number of JSON.

## Main results

* `Json.scanFrom_literal` : a proper literal is one token.
-/

namespace Prospector.Json

/-! ## Literals as text -/

/-- Whether characters are digits, at least one of them. -/
def IsDigits (cs : List Char) : Prop :=
  cs ≠ [] ∧ ∀ c ∈ cs, Text.isDigit c = true

namespace Literal

/-- A literal as text. -/
def written (l : Literal) : List Char :=
  (if l.negative then ['-'] else []) ++ l.whole ++
    (match l.fraction with
      | some digits => '.' :: digits
      | none => []) ++
    match l.exponent with
      | some digits => 'e' :: ((if l.exponentNegative then ['-'] else []) ++ digits)
      | none => []

/-- Whether the text of a literal is a number of JSON: digits stand in each part, and none stands
behind a zero at the beginning. -/
structure IsProper (l : Literal) : Prop where
  whole : IsDigits l.whole
  zero : l.whole.head? = some '0' → l.whole = ['0']
  fraction : ∀ digits, l.fraction = some digits → IsDigits digits
  exponent : ∀ digits, l.exponent = some digits → IsDigits digits
  sign : l.exponent = none → l.exponentNegative = false

end Literal

/-! ## One part after the other -/

/-- Whether a literal ends where these characters follow. -/
def EndsLiteral (cs : List Char) : Prop :=
  ∀ c ∈ cs.head?, Text.isDigit c = false ∧ c ≠ '.' ∧ c ≠ 'e' ∧ c ≠ 'E'

/-- Digits are kept in reverse by the part that they stand in. -/
theorem scanFrom_digits {part : NumberPart} (put : List Char → Literal)
    (hstep : ∀ done c, Text.isDigit c = true →
      Mode.step (.number part (put done)) c = ([], .number part (put (c :: done))))
    {digits : List Char} (h : ∀ c ∈ digits, Text.isDigit c = true) (done cs : List Char) :
    scanFrom (.number part (put done)) (digits ++ cs) =
      scanFrom (.number part (put (digits.reverse ++ done))) cs := by
  induction digits generalizing done with
  | nil => rfl
  | cons c digits ih =>
      obtain ⟨hc, hdigits⟩ := List.forall_mem_cons.1 h
      rw [List.cons_append, scanFrom_cons, hstep done c hc, List.nil_append, ih hdigits,
        List.reverse_cons, List.append_assoc, List.singleton_append]

/-- A literal ends where something else follows. -/
theorem scanFrom_number {part : NumberPart}
    (hpart : part = .zero ∨ part = .whole ∨ part = .fraction ∨ part = .exponent) (l : Literal)
    {cs : List Char} (h : EndsLiteral cs) :
    scanFrom (.number part l) cs = .number (Mode.inOrder l) :: scanFrom .between cs := by
  cases cs with
  | nil => rcases hpart with rfl | rfl | rfl | rfl <;> rfl
  | cons c cs =>
      obtain ⟨hdigit, hpoint, he, hE⟩ := h c rfl
      have hafter : Mode.afterWhole l c = Mode.afterNumber l c := by
        simp [Mode.afterWhole, hpoint, he, hE]
      have hstep : Mode.step (.number part l) c = Mode.afterNumber l c := by
        rcases hpart with rfl | rfl | rfl | rfl <;>
          simp [Mode.step, Mode.inNumber, hdigit, hafter, he, hE]
      rw [scanFrom_cons, scanFrom_cons, hstep]
      rfl

section Parts

variable {cs : List Char} (hend : EndsLiteral cs)

include hend

/-- Behind the mark of an exponent stand its sign and its digits. -/
theorem scanFrom_exponentMark (l : Literal) (hsign : l.exponentNegative = false) (negative : Bool)
    {digits : List Char} (hdigits : IsDigits digits) :
    scanFrom (.number .exponentMark { l with exponent := some [] })
        ((if negative then ['-'] else []) ++ (digits ++ cs)) =
      .number (Mode.inOrder
        { l with exponentNegative := negative, exponent := some digits.reverse }) ::
          scanFrom .between cs := by
  obtain ⟨hne, hall⟩ := hdigits
  obtain ⟨c, rest, rfl⟩ := List.exists_cons_of_ne_nil hne
  obtain ⟨hc, hrest⟩ := List.forall_mem_cons.1 hall
  have hkept : scanFrom (.number .exponent
      { l with exponentNegative := negative, exponent := some [c] }) (rest ++ cs) =
      .number (Mode.inOrder
        { l with exponentNegative := negative, exponent := some (c :: rest).reverse }) ::
          scanFrom .between cs := by
    rw [scanFrom_digits (fun done =>
      { l with exponentNegative := negative, exponent := some done }) ?_ hrest [c] cs,
      List.reverse_cons]
    · exact scanFrom_number (.inr (.inr (.inr rfl))) _ hend
    · intro done d hd
      simp [Mode.step, Mode.inNumber, hd]
  cases negative with
  | true =>
      show scanFrom (.number .exponentMark { l with exponent := some [] })
        ('-' :: c :: (rest ++ cs)) = _
      rw [scanFrom_cons, scanFrom_cons]
      simp only [Mode.step, Mode.inNumber, Char.reduceEq, if_true, if_false, hc, List.nil_append]
      exact hkept
  | false =>
      have hplus : c ≠ '+' := Text.ne_of_isDigit hc (by decide)
      have hminus : c ≠ '-' := Text.ne_of_isDigit hc (by decide)
      have hsame : ({ l with exponentNegative := false, exponent := some [c] } : Literal) =
          { l with exponent := some [c] } := by rw [← hsign]
      show scanFrom (.number .exponentMark { l with exponent := some [] }) (c :: (rest ++ cs)) = _
      rw [scanFrom_cons]
      simp only [Mode.step, Mode.inNumber, hplus, hminus, hc, if_true, if_false, List.nil_append]
      rw [← hsame]
      exact hkept

/-- Behind digits before an exponent stand the exponent, if there is one, and the end. -/
theorem scanFrom_behindDigits {part : NumberPart}
    (hpart : part = .zero ∨ part = .whole ∨ part = .fraction) {l : Literal} (hl : l.IsProper)
    (whole : List Char) (fraction : Option (List Char)) :
    scanFrom (.number part { l with whole, fraction, exponentNegative := false, exponent := none })
      ((match l.exponent with
        | some digits => 'e' :: ((if l.exponentNegative then ['-'] else []) ++ digits)
        | none => []) ++ cs) =
      .number (Mode.inOrder { l with whole, fraction, exponent := l.exponent.map List.reverse }) ::
        scanFrom .between cs := by
  cases hexponent : l.exponent with
  | none =>
      have hsign := hl.sign hexponent
      simp only [List.nil_append, Option.map_none]
      rw [hsign]
      rcases hpart with rfl | rfl | rfl
      · exact scanFrom_number (.inl rfl) _ hend
      · exact scanFrom_number (.inr (.inl rfl)) _ hend
      · exact scanFrom_number (.inr (.inr (.inl rfl))) _ hend
  | some digits =>
      have hmark := scanFrom_exponentMark hend
        { l with whole, fraction, exponentNegative := false, exponent := none } rfl
        l.exponentNegative (hl.exponent digits hexponent)
      simp only [List.cons_append, List.append_assoc, Option.map_some]
      rw [scanFrom_cons, ← hmark]
      rcases hpart with rfl | rfl | rfl <;> rfl

/-- Behind the digits before a point stand the fraction and the exponent, if there are any, and the
end. -/
theorem scanFrom_behindWhole {part : NumberPart} (hpart : part = .zero ∨ part = .whole)
    {l : Literal} (hl : l.IsProper) (whole : List Char) :
    scanFrom (.number part
        { l with whole, fraction := none, exponentNegative := false, exponent := none })
      ((match l.fraction with
        | some digits => '.' :: digits
        | none => []) ++
          ((match l.exponent with
            | some digits => 'e' :: ((if l.exponentNegative then ['-'] else []) ++ digits)
            | none => []) ++ cs)) =
      .number (Mode.inOrder
        { l with
          whole
          fraction := l.fraction.map List.reverse
          exponent := l.exponent.map List.reverse }) :: scanFrom .between cs := by
  cases hfraction : l.fraction with
  | none =>
      have hpart' : part = .zero ∨ part = .whole ∨ part = .fraction := hpart.imp_right .inl
      exact scanFrom_behindDigits hend hpart' hl whole none
  | some digits =>
      obtain ⟨hne, hall⟩ := hl.fraction digits hfraction
      obtain ⟨c, rest, rfl⟩ := List.exists_cons_of_ne_nil hne
      obtain ⟨hc, hrest⟩ := List.forall_mem_cons.1 hall
      have hpoint : Mode.step (.number part
          { l with whole, fraction := none, exponentNegative := false, exponent := none }) '.' =
            ([], .number .point { l with
              whole, fraction := some [], exponentNegative := false, exponent := none }) := by
        rcases hpart with rfl | rfl <;> rfl
      rw [List.cons_append, scanFrom_cons, hpoint, List.nil_append, List.cons_append, scanFrom_cons]
      simp only [Mode.step, Mode.inNumber, hc, if_true, List.nil_append]
      rw [scanFrom_digits (fun done =>
        { l with whole, fraction := some done, exponentNegative := false, exponent := none })
        ?_ hrest [c], scanFrom_behindDigits hend (.inr (.inr rfl)) hl, Option.map_some,
        List.reverse_cons]
      intro done d hd
      simp [Mode.step, Mode.inNumber, hd]

end Parts

/-! ## Whole literals -/

theorem start_digit {c : Char} (hdigit : Text.isDigit c = true) (hzero : c ≠ '0') :
    Mode.start c = ([], .number .whole { whole := [c] }) := by
  have hne : ∀ d : Char, Text.isDigit d = false → c ≠ d := fun d => Text.ne_of_isDigit hdigit
  simp [Mode.start, hdigit, hzero, hne ' ' (by decide), hne '\n' (by decide), hne '\t' (by decide),
    hne '\r' (by decide), hne '[' (by decide), hne ']' (by decide), hne '\x7b' (by decide),
    hne '\x7d' (by decide), hne ',' (by decide), hne ':' (by decide), hne '"' (by decide),
    hne 'n' (by decide), hne 't' (by decide), hne 'f' (by decide), hne '-' (by decide)]

/-- The digits before a point follow on the sign, if there is one. -/
theorem scanFrom_whole (negative : Bool) {whole : List Char} (hdigits : IsDigits whole)
    (hzero : whole.head? = some '0' → whole = ['0']) (cs : List Char) :
    ∃ part, (part = .zero ∨ part = .whole) ∧
      scanFrom .between ((if negative then ['-'] else []) ++ (whole ++ cs)) =
        scanFrom (.number part { negative, whole := whole.reverse }) cs := by
  obtain ⟨hne, hall⟩ := hdigits
  obtain ⟨c, rest, rfl⟩ := List.exists_cons_of_ne_nil hne
  obtain ⟨hc, hrest⟩ := List.forall_mem_cons.1 hall
  by_cases hfirst : c = '0'
  · obtain rfl := (List.cons.inj (hzero (congrArg some hfirst))).2
    subst hfirst
    refine ⟨.zero, .inl rfl, ?_⟩
    cases negative with
    | true =>
        show scanFrom .between ('-' :: '0' :: cs) = _
        rw [scanFrom_cons, scanFrom_cons]
        rfl
    | false =>
        show scanFrom .between ('0' :: cs) = _
        rw [scanFrom_cons]
        rfl
  · have hkept : scanFrom (.number .whole { negative, whole := [c] }) (rest ++ cs) =
        scanFrom (.number .whole { negative, whole := (c :: rest).reverse }) cs := by
      rw [List.reverse_cons]
      refine scanFrom_digits (fun done => { negative, whole := done }) ?_ hrest [c] cs
      intro done d hd
      simp [Mode.step, Mode.inNumber, hd]
    refine ⟨.whole, .inr rfl, ?_⟩
    rw [← hkept]
    cases negative with
    | true =>
        show scanFrom .between ('-' :: c :: (rest ++ cs)) = _
        rw [scanFrom_cons]
        show scanFrom (.number .sign { negative := true }) (c :: (rest ++ cs)) = _
        rw [scanFrom_cons]
        simp only [Mode.step, Mode.inNumber, hfirst, hc, if_true, if_false, List.nil_append]
    | false =>
        show scanFrom .between (c :: (rest ++ cs)) = _
        rw [scanFrom_cons, Mode.step, start_digit hc hfirst, List.nil_append]

/-- A proper literal is one token. -/
theorem scanFrom_literal {l : Literal} (hl : l.IsProper) {cs : List Char} (h : EndsLiteral cs) :
    scanFrom .between (l.written ++ cs) = .number l :: scanFrom .between cs := by
  rw [Literal.written, List.append_assoc, List.append_assoc, List.append_assoc]
  obtain ⟨part, hpart, hwhole⟩ := scanFrom_whole l.negative hl.whole hl.zero _
  rw [hwhole]
  refine (scanFrom_behindWhole h hpart hl l.whole.reverse).trans ?_
  rw [Mode.inOrder]
  simp

end Prospector.Json
