import Prospector.Proofs.Json.Numeral
import Prospector.Proofs.Json.Tree

/-!
# Written values are cut into their tokens

A value is written as a JSON text, and that text is the one that the value names: blanks between its
parts make no token, and a number ends where its literal does. So the layout does not matter to the
machine that cuts a text into tokens.

## Main definitions

* `Json.Tree.ofJson` : the text that a value names.

## Main results

* `Json.scanFrom_written` : a written value is cut into its tokens, whatever follows it.
* `Json.tokens_indented` : so is a value over several lines.
-/

namespace Prospector.Json

namespace Tree

/-- The text that a number names; a number that is not finite has none and becomes `null`. -/
def ofNumber : Number → Tree
  | .int n => .number (.ofInt n)
  | .float x => if x.isFinite then .number (.ofFloat x) else .null

mutual

/-- The text that a value names. -/
def ofJson : Json → Tree
  | .null => .null
  | .bool b => .bool b
  | .number n => ofNumber n
  | .string s => .string (some s)
  | .array items => .array (ofItems items)
  | .object members => .object (ofMembers members)

/-- The texts that items name. -/
def ofItems : List Json → List Tree
  | [] => []
  | item :: items => ofJson item :: ofItems items

/-- The texts that members name. -/
def ofMembers : List (String × Json) → List (Option String × Tree)
  | [] => []
  | (key, value) :: members => (some key, ofJson value) :: ofMembers members

end

theorem ofItems_eq_map (items : List Json) : ofItems items = items.map ofJson := by
  induction items with
  | nil => rfl
  | cons item items ih => rw [ofItems, ih, List.map_cons]

end Tree

/-! ## Values -/

theorem endsLiteral_cons {c : Char} (hdigit : Text.isDigit c = false)
    (hmark : c ≠ '.' ∧ c ≠ 'e' ∧ c ≠ 'E') (cs : List Char) : EndsLiteral (c :: cs) := by
  intro d hd
  obtain rfl := Option.some.inj hd
  exact ⟨hdigit, hmark⟩

theorem endsLiteral_break (layout : Layout) {cs : List Char} (h : EndsLiteral cs) :
    EndsLiteral (layout.break ++ cs) := by
  cases layout with
  | none => exact h
  | some depth => exact endsLiteral_cons (by decide) (by decide) _

theorem endsLiteral_writtenItems (layout : Layout) (items : List Json) {cs : List Char}
    (h : EndsLiteral cs) : EndsLiteral (writtenItems layout items ++ cs) := by
  cases items with
  | nil => exact h
  | cons item items => exact endsLiteral_cons (by decide) (by decide) _

theorem endsLiteral_writtenMembers (layout : Layout) (members : List (String × Json))
    {cs : List Char} (h : EndsLiteral cs) : EndsLiteral (writtenMembers layout members ++ cs) := by
  cases members with
  | nil => exact h
  | cons m members => exact endsLiteral_cons (by decide) (by decide) _

/-- What closes an array or object ends a literal. -/
theorem endsLiteral_close (layout : Layout) {c : Char} (hc : c = ']' ∨ c = '\x7d')
    (cs : List Char) : EndsLiteral (layout.break ++ c :: cs) := by
  apply endsLiteral_break
  rcases hc with rfl | rfl <;> exact endsLiteral_cons (by decide) (by decide) cs

/-- A written number is cut into its tokens. -/
theorem scanFrom_written_number (n : Number) {rest : List Char} (h : EndsLiteral rest) :
    scanFrom .between (n.written ++ rest) = (Tree.ofNumber n).tokens ++ scanFrom .between rest := by
  cases n with
  | int n =>
      rw [Number.written, ← Literal.written_ofInt]
      exact scanFrom_literal (Literal.isProper_ofInt n) h
  | float x =>
      rw [Number.written, Tree.ofNumber]
      split
      · rw [← Literal.written_ofFloat]
        exact scanFrom_literal (Literal.isProper_ofFloat x) h
      · exact (scanFrom_cons ..).trans (scanFrom_word (by decide) .null rest)

mutual

/-- A written value is cut into its tokens. -/
theorem scanFrom_written : ∀ (v : Json) (layout : Layout) {rest : List Char}, EndsLiteral rest →
    scanFrom .between (written layout v ++ rest) = (Tree.ofJson v).tokens ++ scanFrom .between rest
  | .null, _, rest, _ => (scanFrom_cons ..).trans (scanFrom_word (by decide) .null rest)
  | .bool true, _, rest, _ => (scanFrom_cons ..).trans (scanFrom_word (by decide) (.bool true) rest)
  | .bool false, _, rest, _ =>
      (scanFrom_cons ..).trans (scanFrom_word (by decide) (.bool false) rest)
  | .number n, _, _, hrest => scanFrom_written_number n hrest
  | .string s, _, rest, _ => scanFrom_quoted s rest
  | .array [], _, rest, _ => by
      show scanFrom .between ('[' :: ']' :: rest) = _
      rw [scanFrom_cons, scanFrom_cons]
      rfl
  | .array (item :: items), layout, rest, _ => by
      show scanFrom .between ('[' :: layout.deeper.break ++ written layout.deeper item ++
        writtenItems layout.deeper items ++ layout.break ++ [']'] ++ rest) =
          .openArray :: ((Tree.ofJson item).tokens ++ Tree.itemTokens (Tree.ofItems items)) ++ _
      simp only [List.append_assoc, List.cons_append, List.nil_append]
      rw [scanFrom_cons]
      show .openArray :: scanFrom .between _ = _
      rw [scanFrom_break, scanFrom_written item _
        (endsLiteral_writtenItems _ items (endsLiteral_close layout (.inl rfl) rest)),
        scanFrom_writtenItems items _]
  | .object [], _, rest, _ => by
      show scanFrom .between ('\x7b' :: '\x7d' :: rest) = _
      rw [scanFrom_cons, scanFrom_cons]
      rfl
  | .object ((key, value) :: members), layout, rest, _ => by
      show scanFrom .between ('\x7b' :: layout.deeper.break ++ quoted key ++ layout.colon ++
        written layout.deeper value ++ writtenMembers layout.deeper members ++ layout.break ++
          ['\x7d'] ++ rest) = .openObject :: .string (some key) :: .colon ::
            ((Tree.ofJson value).tokens ++ Tree.memberTokens (Tree.ofMembers members)) ++ _
      simp only [List.append_assoc, List.cons_append, List.nil_append]
      rw [scanFrom_cons]
      show .openObject :: scanFrom .between _ = _
      rw [scanFrom_break, scanFrom_quoted, scanFrom_colon, scanFrom_written value _
        (endsLiteral_writtenMembers _ members (endsLiteral_close layout (.inr rfl) rest)),
        scanFrom_writtenMembers members _]

theorem scanFrom_writtenItems : ∀ (items : List Json) (layout : Layout) {outer : Layout}
    {rest : List Char},
    scanFrom .between (writtenItems layout items ++ (outer.break ++ ']' :: rest)) =
      Tree.itemTokens (Tree.ofItems items) ++ scanFrom .between rest
  | [], _, outer, rest => by
      rw [writtenItems, List.nil_append, scanFrom_break, scanFrom_cons]
      rfl
  | item :: items, layout, outer, rest => by
      show scanFrom .between (',' :: layout.break ++ written layout item ++
        writtenItems layout items ++ _) = .comma :: ((Tree.ofJson item).tokens ++
          Tree.itemTokens (Tree.ofItems items)) ++ _
      simp only [List.append_assoc, List.cons_append]
      rw [scanFrom_cons]
      show .comma :: scanFrom .between _ = _
      rw [scanFrom_break, scanFrom_written item _
        (endsLiteral_writtenItems _ items (endsLiteral_close outer (.inl rfl) rest)),
        scanFrom_writtenItems items _]

theorem scanFrom_writtenMembers : ∀ (members : List (String × Json)) (layout : Layout)
    {outer : Layout} {rest : List Char},
    scanFrom .between (writtenMembers layout members ++ (outer.break ++ '\x7d' :: rest)) =
      Tree.memberTokens (Tree.ofMembers members) ++ scanFrom .between rest
  | [], _, outer, rest => by
      rw [writtenMembers, List.nil_append, scanFrom_break, scanFrom_cons]
      rfl
  | (key, value) :: members, layout, outer, rest => by
      show scanFrom .between (',' :: layout.break ++ quoted key ++ layout.colon ++
        written layout value ++ writtenMembers layout members ++ _) =
          .comma :: .string (some key) :: .colon :: ((Tree.ofJson value).tokens ++
            Tree.memberTokens (Tree.ofMembers members)) ++ _
      simp only [List.append_assoc, List.cons_append]
      rw [scanFrom_cons]
      show .comma :: scanFrom .between _ = _
      rw [scanFrom_break, scanFrom_quoted, scanFrom_colon, scanFrom_written value _
        (endsLiteral_writtenMembers _ members (endsLiteral_close outer (.inr rfl) rest)),
        scanFrom_writtenMembers members _]

end

/-- A value written over several lines, with a line break behind it, is the text that it names. -/
theorem tokens_indented (v : Json) : tokens (v.indented ++ "\n") = (Tree.ofJson v).tokens := by
  have hend : EndsLiteral ['\n'] := endsLiteral_cons (by decide) (by decide) []
  rw [tokens, indented, String.toList_append, String.toList_ofList]
  exact (scanFrom_written v (some 0) hend).trans (List.append_nil _)

end Prospector.Json
