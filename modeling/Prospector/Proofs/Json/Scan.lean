import Prospector.Json.Printer
import Prospector.Json.Token
import Prospector.Proofs.Text.Digit

/-!
# Written strings and blanks are cut into tokens

The machine that cuts a text into tokens takes one character at a time, so what follows is cut as if
nothing had stood before it, once a token is complete. The blanks of a layout make no token, a word
is one token, and so is a written string: an escape stands for the character that it was written
for.

## Main definitions

* `Json.scanFrom` : the tokens of the characters that follow in the middle of a text.

## Main results

* `Json.scanFrom_break`, `Json.scanFrom_colon`, `Json.scanFrom_word` : layout and words.
* `Json.scanFrom_quoted` : a written string is one token.
-/

namespace Prospector.Json

/-! ## One character -/

/-- The tokens of the characters that follow in the middle of a text. -/
abbrev scanFrom (mode : Mode) (cs : List Char) : List Token :=
  Mode.scan [] mode cs

theorem scanFrom_cons (mode : Mode) (c : Char) (cs : List Char) :
    scanFrom mode (c :: cs) = (mode.step c).1 ++ scanFrom (mode.step c).2 cs := by
  rw [scanFrom, Mode.scan]
  show Mode.scan ((mode.step c).1.reverse ++ []) (mode.step c).2 cs = _
  rw [Mode.scan_eq_append, List.append_nil, List.reverse_reverse]

theorem scanFrom_break (layout : Layout) (cs : List Char) :
    scanFrom .between (layout.break ++ cs) = scanFrom .between cs := by
  have hblanks : ∀ n, scanFrom .between (List.replicate n ' ' ++ cs) = scanFrom .between cs := by
    intro n
    induction n with
    | zero => rfl
    | succ n ih =>
        rw [List.replicate_succ, List.cons_append, scanFrom_cons]
        exact ih
  cases layout with
  | none => rfl
  | some depth =>
      rw [Layout.break, List.cons_append, scanFrom_cons]
      exact hblanks (2 * depth)

theorem scanFrom_colon (layout : Layout) (cs : List Char) :
    scanFrom .between (layout.colon ++ cs) = .colon :: scanFrom .between cs := by
  cases layout with
  | none =>
      rw [Layout.colon, List.singleton_append, scanFrom_cons]
      rfl
  | some depth =>
      rw [Layout.colon, List.cons_append, scanFrom_cons, List.singleton_append, scanFrom_cons]
      rfl

/-- A word is one token. -/
theorem scanFrom_word {word : List Char} (h : word ≠ []) (token : Token) (cs : List Char) :
    scanFrom (.word word token) (word ++ cs) = token :: scanFrom .between cs := by
  induction word with
  | nil => exact absurd rfl h
  | cons c word ih =>
      rw [List.cons_append, scanFrom_cons, Mode.step, if_pos rfl]
      cases word with
      | nil => rfl
      | cons d word => exact ih (List.cons_ne_nil d word)

/-! ## Strings -/

/-- The escape of a control character stands for the character. -/
theorem scanFrom_unit {c : Char} (hc : c.toNat < 0x20) (chars cs : List Char) :
    scanFrom (.string { chars }) (['\\', 'u', '0', '0', Text.lowerDigit (c.toNat / 16),
        Text.lowerDigit (c.toNat % 16)] ++ cs) = scanFrom (.string { chars := c :: chars }) cs := by
  have hhigh : Text.hexValue? (Text.lowerDigit (c.toNat / 16)) = some (c.toNat / 16) :=
    Text.hexValue?_lowerDigit (by omega)
  have hlow : Text.hexValue? (Text.lowerDigit (c.toNat % 16)) = some (c.toNat % 16) :=
    Text.hexValue?_lowerDigit (by omega)
  have hzero : Text.hexValue? '0' = some 0 := by decide
  have hvalue : ((0 * 16 + 0) * 16 + c.toNat / 16) * 16 + c.toNat % 16 = c.toNat := by omega
  have hunit : Content.pushUnit { chars } c.toNat = { chars := c :: chars } := by
    have hfirst : ¬(0xD800 ≤ c.toNat && c.toNat ≤ 0xDBFF) = true := by
      simp only [Bool.and_eq_true, decide_eq_true_eq]
      omega
    have hsecond : ¬(0xDC00 ≤ c.toNat && c.toNat ≤ 0xDFFF) = true := by
      simp only [Bool.and_eq_true, decide_eq_true_eq]
      omega
    simp only [Content.pushUnit]
    rw [if_neg hfirst, if_neg hsecond, Char.ofNat_toNat]
  simp only [List.cons_append, List.nil_append, scanFrom_cons, Mode.step, Char.reduceEq, if_true,
    if_false, hzero, hhigh, hlow, Nat.reduceLeDiff, Nat.reduceSub, Nat.zero_mul, Nat.zero_add]
  rw [← hunit]
  congr 3
  omega

/-- A character as it is written inside a string stands for itself. -/
theorem scanFrom_escapeChar (c : Char) (chars cs : List Char) :
    scanFrom (.string { chars }) (escapeChar c ++ cs) =
      scanFrom (.string { chars := c :: chars }) cs := by
  have hletter : ∀ {e : Char}, e ≠ 'u' → Mode.escaped? e = some c →
      scanFrom (.string { chars }) ('\\' :: e :: cs) =
        scanFrom (.string { chars := c :: chars }) cs := by
    intro e hu he
    rw [scanFrom_cons, scanFrom_cons]
    simp only [Mode.step, Char.reduceEq, if_true, if_false, if_neg hu, he]
    rfl
  unfold escapeChar
  split
  · next h => exact hletter (by decide) (by rw [h]; decide)
  · next hquote =>
    split
    · next h => exact hletter (by decide) (by rw [h]; decide)
    · next hslash =>
      split
      · next h => exact hletter (by decide) (by rw [h]; decide)
      · split
        · next h => exact hletter (by decide) (by rw [h]; decide)
        · split
          · next h => exact hletter (by decide) (by rw [h]; decide)
          · split
            · next h => exact hletter (by decide) (by rw [h]; decide)
            · split
              · next h => exact hletter (by decide) (by rw [h]; decide)
              · split
                · next h => exact scanFrom_unit h chars cs
                · next h =>
                  rw [List.singleton_append, scanFrom_cons]
                  simp only [Mode.step, if_neg hquote, if_neg hslash, if_neg h]
                  rfl

theorem scanFrom_escaped (chars text cs : List Char) :
    scanFrom (.string { chars }) (text.flatMap escapeChar ++ '"' :: cs) =
      .string (some (String.ofList (chars.reverse ++ text))) :: scanFrom .between cs := by
  induction text generalizing chars with
  | nil =>
      rw [List.flatMap_nil, List.nil_append, scanFrom_cons, List.append_nil]
      rfl
  | cons c text ih =>
      rw [List.flatMap_cons, List.append_assoc, scanFrom_escapeChar, ih, List.reverse_cons,
        List.append_assoc, List.singleton_append]

/-- A written string is one token. -/
theorem scanFrom_quoted (s : String) (cs : List Char) :
    scanFrom .between (quoted s ++ cs) = .string (some s) :: scanFrom .between cs := by
  rw [quoted, List.append_assoc, List.cons_append, List.singleton_append, scanFrom_cons]
  show scanFrom (.string {}) _ = _
  rw [scanFrom_escaped, List.reverse_nil, List.nil_append, String.ofList_toList]

end Prospector.Json
