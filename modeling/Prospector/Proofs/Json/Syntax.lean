import Prospector.Proofs.Json.Tree

/-!
# Accepted texts are JSON

Whatever the shape that is expected, a text that the reader accepts is written out from a value: no
bracket is left open, no comma or colon is missing and nothing stands behind the value. The shapes
only decide which of these texts are accepted and what is kept of them.

The proof follows the tokens. Where a value is awaited, the tokens begin with those of a text; the
reader hands its value to the innermost open array or object, and what must follow there depends on
which of the two it is, not on what the array or object is for.

## Main definitions

* `Json.Progress.Completes` : whether the tokens that follow complete the value.

## Main results

* `Json.exists_tree_of_readAs` : a text that is accepted is one that a tree writes.
-/

namespace Prospector.Json

open Progress

variable {limit : Nat}

namespace Progress

/-- Whether the tokens that follow complete the value that is being read. -/
def Completes (limit : Nat) (p : Progress) (ts : List Token) : Prop :=
  ∃ stack v, run limit p ts = .ok ⟨stack, .nothing v⟩

theorem completes_cons {p : Progress} {t : Token} {ts : List Token}
    (h : Completes limit p (t :: ts)) :
    ∃ next, step limit p t = .ok next ∧ Completes limit next ts := by
  obtain ⟨stack, v, hrun⟩ := h
  rw [run_cons] at hrun
  cases hstep : step limit p t with
  | error fault =>
      rw [hstep] at hrun
      cases hrun
  | ok next =>
      rw [hstep] at hrun
      exact ⟨next, rfl, stack, v, hrun⟩

/-- Where something is awaited, tokens must follow. -/
theorem exists_cons_of_completes {stack : List Frame} {need : Need} {ts : List Token}
    (h : Completes limit ⟨stack, need⟩ ts) (hneed : ∀ v, need ≠ .nothing v) :
    ∃ t rest, ts = t :: rest := by
  cases ts with
  | nil =>
      obtain ⟨stack', v, hrun⟩ := h
      exact absurd (Progress.mk.inj (Except.ok.inj hrun)).2 (hneed v)
  | cons t rest => exact ⟨t, rest, rfl⟩

/-- Behind a complete value nothing follows. -/
theorem eq_nil_of_completes {stack : List Frame} {v : Json} {ts : List Token}
    (h : Completes limit ⟨stack, .nothing v⟩ ts) : ts = [] := by
  cases ts with
  | nil => rfl
  | cons t rest =>
      obtain ⟨next, hstep, -⟩ := completes_cons h
      cases t <;> cases hstep

/-- What follows a text completes the value once that of the text is handed over. -/
theorem completes_append {t : Tree} {shape : Shape} {outer : List Frame} {rest : List Token}
    (h : Completes limit ⟨outer, .value shape⟩ (t.tokens ++ rest)) :
    ∃ v, Completes limit (deliver v outer) rest := by
  obtain ⟨stack, w, hrun⟩ := h
  rw [Tree.run_tokens, Tree.thenRun] at hrun
  cases hread : t.read (limit - outer.length) shape with
  | error fault =>
      rw [hread] at hrun
      cases hrun
  | ok v =>
      rw [hread] at hrun
      exact ⟨v, stack, w, hrun⟩

theorem completes_behind {t : Tree} {shape : Shape} {stack : List Frame} {need : Need}
    {rest : List Token} (hdeliver : ∀ v, ∃ after, deliver v stack = ⟨after, need⟩)
    (h : Completes limit ⟨stack, .value shape⟩ (t.tokens ++ rest)) :
    ∃ after, Completes limit ⟨after, need⟩ rest := by
  obtain ⟨v, hrest⟩ := completes_append h
  obtain ⟨after, hafter⟩ := hdeliver v
  exact ⟨after, hafter ▸ hrest⟩

/-- An array that awaits another item goes on behind it. -/
theorem deliver_of_nextItem {stack : List Frame} {shape : Shape} (h : nextItem stack = some shape)
    (v : Json) : ∃ after, deliver v stack = ⟨after, .afterItem⟩ := by
  cases stack with
  | nil => cases h
  | cons frame outer =>
      cases frame with
      | items shape done => exact ⟨_, rfl⟩
      | row fields remaining done =>
          cases remaining with
          | nil => cases h
          | cons field remaining => exact ⟨_, rfl⟩
      | members fields others done key => cases h
      | ignoredItems => exact ⟨_, rfl⟩
      | ignoredMembers => cases h

/-- An object that has taken a key goes on behind the value of the key. -/
theorem deliver_of_takeKey {stack : List Frame} {content : Option String} {next : Progress}
    (h : takeKey content stack = .ok next) :
    ∃ shape, next.need = .colon shape ∧
      ∀ v, ∃ after, deliver v next.open_ = ⟨after, .afterMember⟩ := by
  cases stack with
  | nil => cases h
  | cons frame outer =>
      cases frame with
      | members fields others done key =>
          cases content with
          | none => cases h
          | some name =>
              simp only [takeKey] at h
              split at h
              · split at h
                · cases h
                · obtain rfl := Except.ok.inj h
                  exact ⟨_, rfl, fun v => ⟨_, rfl⟩⟩
              · obtain rfl := Except.ok.inj h
                exact ⟨_, rfl, fun v => ⟨_, rfl⟩⟩
      | ignoredMembers =>
          obtain rfl := Except.ok.inj h
          exact ⟨_, rfl, fun v => ⟨_, rfl⟩⟩
      | items shape done => cases h
      | row fields remaining done => cases h
      | ignoredItems => cases h

theorem exists_of_enter {frame : Frame} {need : Need} {outer : List Frame} {next : Progress}
    (h : enter limit frame need outer = .ok next) : ∃ stack, next = ⟨stack, need⟩ := by
  unfold enter at h
  split at h
  · exact ⟨_, (Except.ok.inj h).symm⟩
  · cases h

/-- No value begins with a closing bracket, a comma, a colon or a flaw. -/
theorem take_eq_error {token : Token} (h : token = .closeArray ∨ token = .closeObject ∨
    token = .comma ∨ token = .colon ∨ token = .flaw) (outer : List Frame) :
    ∀ shape : Shape, ∃ fault, take limit outer token shape = .error fault
  | .nullable shape => by
      obtain ⟨fault, hfault⟩ := take_eq_error h outer shape
      rcases h with rfl | rfl | rfl | rfl | rfl <;> exact ⟨fault, hfault⟩
  | .any | .ignored | .text | .list _ | .record _ _ _ => by
      rcases h with rfl | rfl | rfl | rfl | rfl <;> exact ⟨_, rfl⟩

/-- Where a value stands, an array begins, an object begins, or the token is a value. -/
theorem take_cases {outer : List Frame} {shape : Shape} {token : Token} {next : Progress}
    (h : take limit outer token shape = .ok next) :
    (token = .openArray ∧ ∃ stack, next = ⟨stack, .firstItem⟩) ∨
      (token = .openObject ∧ ∃ stack, next = ⟨stack, .firstKey⟩) ∨
        ∃ t : Tree, t.tokens = [token] := by
  have hrefused : ∀ {token : Token}, (token = .closeArray ∨ token = .closeObject ∨
      token = .comma ∨ token = .colon ∨ token = .flaw) →
        take limit outer token shape ≠ .ok next := by
    intro token hpunctuation hok
    obtain ⟨fault, hfault⟩ : ∃ fault, take limit outer token shape = .error fault :=
      take_eq_error hpunctuation outer shape
    rw [hfault] at hok
    cases hok
  cases token with
  | openArray =>
      rw [take_openArray] at h
      refine .inl ⟨rfl, ?_⟩
      split at h
      · exact ⟨_, (Except.ok.inj h).symm⟩
      · cases h
      · exact exists_of_enter h
      · exact exists_of_enter h
  | openObject =>
      rw [take_openObject] at h
      refine .inr (.inl ⟨rfl, ?_⟩)
      split at h
      · exact ⟨_, (Except.ok.inj h).symm⟩
      · cases h
      · exact exists_of_enter h
  | null => exact .inr (.inr ⟨.null, rfl⟩)
  | bool b => exact .inr (.inr ⟨.bool b, rfl⟩)
  | number l => exact .inr (.inr ⟨.number l, rfl⟩)
  | string content => exact .inr (.inr ⟨.string content, rfl⟩)
  | closeArray | closeObject | comma | colon | flaw => exact absurd h (hrefused (by simp))

/-- An array that was opened ends, or a value of it stands next. -/
theorem completes_firstItem {stack : List Frame} {ts : List Token}
    (h : Completes limit ⟨stack, .firstItem⟩ ts) :
    (∃ rest, ts = .closeArray :: rest) ∨
      ∃ shape, nextItem stack = some shape ∧ Completes limit ⟨stack, .value shape⟩ ts := by
  obtain ⟨token, rest, rfl⟩ := exists_cons_of_completes h nofun
  by_cases hclose : token = .closeArray
  · exact .inl ⟨rest, by rw [hclose]⟩
  · right
    cases hnext : nextItem stack with
    | none =>
        obtain ⟨next, hstep, -⟩ := completes_cons h
        cases token <;> simp [step, hnext] at hstep hclose
    | some shape =>
        have hstep : step limit ⟨stack, .firstItem⟩ token =
            step limit ⟨stack, .value shape⟩ token := by
          cases token <;> simp only [step, hnext] <;> exact absurd rfl hclose
        obtain ⟨top, v, hrun⟩ := h
        rw [run_cons, hstep, ← run_cons] at hrun
        exact ⟨shape, rfl, top, v, hrun⟩

/-- Behind an item the array ends, or there is a comma and a value of it stands next. -/
theorem completes_afterItem {stack : List Frame} {ts : List Token}
    (h : Completes limit ⟨stack, .afterItem⟩ ts) :
    (∃ rest, ts = .closeArray :: rest) ∨ ∃ rest shape, ts = .comma :: rest ∧
      nextItem stack = some shape ∧ Completes limit ⟨stack, .value shape⟩ rest := by
  obtain ⟨token, rest, rfl⟩ := exists_cons_of_completes h nofun
  obtain ⟨next, hstep, hnext⟩ := completes_cons h
  cases token with
  | closeArray => exact .inl ⟨rest, rfl⟩
  | comma =>
      simp only [step] at hstep
      split at hstep
      · next shape hshape =>
        obtain rfl := Except.ok.inj hstep
        exact .inr ⟨rest, shape, rfl, hshape, hnext⟩
      · cases hstep
  | _ => cases hstep

/-- Where a key stands, it is followed by a colon and a value, behind which the object goes on. -/
theorem completes_takeKey {stack : List Frame} {content : Option String} {next : Progress}
    {ts : List Token} (hkey : takeKey content stack = .ok next) (h : Completes limit next ts) :
    ∃ rest stack' shape, ts = .colon :: rest ∧ Completes limit ⟨stack', .value shape⟩ rest ∧
      ∀ v, ∃ after, deliver v stack' = ⟨after, .afterMember⟩ := by
  obtain ⟨shape, hneed, hdeliver⟩ := deliver_of_takeKey hkey
  obtain ⟨stack', need⟩ := next
  obtain rfl : need = .colon shape := hneed
  obtain ⟨token, rest, rfl⟩ := exists_cons_of_completes h nofun
  obtain ⟨next, hstep, hnext⟩ := completes_cons h
  cases token with
  | colon =>
      obtain rfl := Except.ok.inj hstep
      exact ⟨rest, stack', shape, rfl, hnext, hdeliver⟩
  | _ => cases hstep

/-- An object that was opened ends, or a key of it stands next. -/
theorem completes_firstKey {stack : List Frame} {ts : List Token}
    (h : Completes limit ⟨stack, .firstKey⟩ ts) :
    (∃ rest, ts = .closeObject :: rest) ∨ ∃ content rest next, ts = .string content :: rest ∧
      takeKey content stack = .ok next ∧ Completes limit next rest := by
  obtain ⟨token, rest, rfl⟩ := exists_cons_of_completes h nofun
  obtain ⟨next, hstep, hnext⟩ := completes_cons h
  cases token with
  | closeObject => exact .inl ⟨rest, rfl⟩
  | string content => exact .inr ⟨content, rest, next, rfl, hstep, hnext⟩
  | _ => cases hstep

/-- Behind a member the object ends, or there is a comma and a key of it stands next. -/
theorem completes_afterMember {stack : List Frame} {ts : List Token}
    (h : Completes limit ⟨stack, .afterMember⟩ ts) :
    (∃ rest, ts = .closeObject :: rest) ∨ ∃ content rest next,
      ts = .comma :: .string content :: rest ∧ takeKey content stack = .ok next ∧
        Completes limit next rest := by
  obtain ⟨token, rest, rfl⟩ := exists_cons_of_completes h nofun
  obtain ⟨next, hstep, hnext⟩ := completes_cons h
  cases token with
  | closeObject => exact .inl ⟨rest, rfl⟩
  | comma =>
      obtain rfl := Except.ok.inj hstep
      obtain ⟨token, rest, rfl⟩ := exists_cons_of_completes hnext nofun
      obtain ⟨behind, hkey, hbehind⟩ := completes_cons hnext
      cases token with
      | string content => exact .inr ⟨content, rest, behind, rfl, hkey, hbehind⟩
      | _ => cases hkey
  | _ => cases hstep

end Progress

/-! ## What completes a value begins with a text -/

mutual

/-- Where a value is awaited, the tokens begin with those of a text. The recursion is on a bound for
their number. -/
theorem exists_tree_of_completes : ∀ (bound : Nat) {stack : List Frame} {shape : Shape}
    {ts : List Token}, ts.length < bound → Completes limit ⟨stack, .value shape⟩ ts →
      ∃ (t : Tree) (rest : List Token), ts = t.tokens ++ rest
  | bound + 1, _, _, ts, hbound, h => by
      obtain ⟨token, rest, rfl⟩ := exists_cons_of_completes h nofun
      obtain ⟨next, hstep, hnext⟩ := completes_cons h
      rcases take_cases hstep with ⟨rfl, stack, rfl⟩ | ⟨rfl, stack, rfl⟩ | ⟨t, ht⟩
      · rcases completes_firstItem hnext with ⟨rest, rfl⟩ | ⟨shape, hshape, hvalue⟩
        · exact ⟨.array [], rest, rfl⟩
        · rw [List.length_cons] at hbound
          obtain ⟨item, rest, rfl⟩ := exists_tree_of_completes bound (by omega) hvalue
          obtain ⟨after, hafter⟩ := completes_behind (deliver_of_nextItem hshape) hvalue
          rw [List.length_append] at hbound
          obtain ⟨items, rest, rfl⟩ := exists_items_of_completes bound (by omega) hafter
          exact ⟨.array (item :: items), rest, by simp [Tree.tokens]⟩
      · rcases completes_firstKey hnext with ⟨rest, rfl⟩ | ⟨key, rest, next, rfl, hkey, hnext⟩
        · exact ⟨.object [], rest, rfl⟩
        · obtain ⟨rest, stack, shape, rfl, hvalue, hdeliver⟩ := completes_takeKey hkey hnext
          simp only [List.length_cons] at hbound
          obtain ⟨value, rest, rfl⟩ := exists_tree_of_completes bound (by omega) hvalue
          obtain ⟨after, hafter⟩ := completes_behind hdeliver hvalue
          rw [List.length_append] at hbound
          obtain ⟨members, rest, rfl⟩ := exists_members_of_completes bound (by omega) hafter
          exact ⟨.object ((key, value) :: members), rest, by simp [Tree.tokens]⟩
      · exact ⟨t, rest, by rw [ht, List.singleton_append]⟩

/-- Behind an item the tokens begin with those of further items. -/
theorem exists_items_of_completes : ∀ (bound : Nat) {stack : List Frame} {ts : List Token},
    ts.length < bound → Completes limit ⟨stack, .afterItem⟩ ts →
      ∃ (items : List Tree) (rest : List Token), ts = Tree.itemTokens items ++ rest
  | bound + 1, _, ts, hbound, h => by
      rcases completes_afterItem h with ⟨rest, rfl⟩ | ⟨rest, shape, rfl, hshape, hvalue⟩
      · exact ⟨[], rest, rfl⟩
      · rw [List.length_cons] at hbound
        obtain ⟨item, rest, rfl⟩ := exists_tree_of_completes bound (by omega) hvalue
        obtain ⟨after, hafter⟩ := completes_behind (deliver_of_nextItem hshape) hvalue
        rw [List.length_append] at hbound
        obtain ⟨items, rest, rfl⟩ := exists_items_of_completes bound (by omega) hafter
        exact ⟨item :: items, rest, by simp [Tree.itemTokens]⟩

/-- Behind a member the tokens begin with those of further members. -/
theorem exists_members_of_completes : ∀ (bound : Nat) {stack : List Frame} {ts : List Token},
    ts.length < bound → Completes limit ⟨stack, .afterMember⟩ ts →
      ∃ (members : List (Option String × Tree)) (rest : List Token),
        ts = Tree.memberTokens members ++ rest
  | bound + 1, _, ts, hbound, h => by
      rcases completes_afterMember h with ⟨rest, rfl⟩ | ⟨key, rest, next, rfl, hkey, hnext⟩
      · exact ⟨[], rest, rfl⟩
      · obtain ⟨rest, stack, shape, rfl, hvalue, hdeliver⟩ := completes_takeKey hkey hnext
        simp only [List.length_cons] at hbound
        obtain ⟨value, rest, rfl⟩ := exists_tree_of_completes bound (by omega) hvalue
        obtain ⟨after, hafter⟩ := completes_behind hdeliver hvalue
        rw [List.length_append] at hbound
        obtain ⟨members, rest, rfl⟩ := exists_members_of_completes bound (by omega) hafter
        exact ⟨(key, value) :: members, rest, by simp [Tree.memberTokens]⟩

end

/-- A text that is accepted, whatever its shape should be, is one that a tree writes. -/
theorem exists_tree_of_readAs {shape : Shape} {text : String} {v : Json}
    (h : readAs shape text = .ok v) : ∃ t : Tree, tokens text = t.tokens := by
  have hcompletes : Completes nestingLimit ⟨[], .value shape⟩ (tokens text) := by
    unfold readAs readWithin at h
    split at h
    · next stack w hrun => exact ⟨stack, w, hrun⟩
    · cases h
    · cases h
  obtain ⟨t, rest, htokens⟩ := exists_tree_of_completes _ (Nat.lt_succ_self _) hcompletes
  rw [htokens] at hcompletes
  obtain ⟨w, hrest⟩ := completes_append hcompletes
  obtain rfl : rest = [] := eq_nil_of_completes hrest
  exact ⟨t, by rw [htokens, List.append_nil]⟩

end Prospector.Json
