import Prospector.Json.Reader

/-!
# Reading JSON texts by recursion

A JSON text is a value, written out as tokens. The reader takes these one by one and keeps the open
arrays and objects on a stack; what it comes to is what a plain recursion over the value comes to,
which needs no stack and against which properties of the reader can be stated.

## Main definitions

* `Json.Tree` : a JSON text as written, with numbers and keys as they are and keys as often as they
  stand there.
* `Json.Tree.tokens` : its tokens.
* `Json.Tree.read` : what is read of it, by recursion.

## Main results

* `Json.Tree.run_tokens` : the reader comes to what the recursion comes to.
* `Json.readAs_eq` : so it does for whole texts.
-/

namespace Prospector.Json

/-- A JSON text without blanks. A string without content has an escape that names half of a
surrogate pair. -/
inductive Tree where
  | null
  | bool (value : Bool)
  | number (literal : Literal)
  | string (content : Option String)
  | array (items : List Tree)
  | object (members : List (Option String × Tree))

namespace Tree

mutual

/-- The tokens of a text. -/
def tokens : Tree → List Token
  | .null => [.null]
  | .bool b => [.bool b]
  | .number l => [.number l]
  | .string content => [.string content]
  | .array [] => [.openArray, .closeArray]
  | .array (item :: items) => .openArray :: (item.tokens ++ itemTokens items)
  | .object [] => [.openObject, .closeObject]
  | .object ((key, value) :: members) =>
    .openObject :: .string key :: .colon :: (value.tokens ++ memberTokens members)

/-- The tokens behind the first item of an array. -/
def itemTokens : List Tree → List Token
  | [] => [.closeArray]
  | item :: items => .comma :: (item.tokens ++ itemTokens items)

/-- The tokens behind the first member of an object. -/
def memberTokens : List (Option String × Tree) → List Token
  | [] => [.closeObject]
  | (key, value) :: members =>
    .comma :: .string key :: .colon :: (value.tokens ++ memberTokens members)

end

end Tree

/-! ## Shapes -/

/-- What an array is for a shape: nothing that is kept, items of a shape, the members of a record in
order, or nothing that may stand there. -/
inductive ArrayForm where
  | ignored
  | items (shape : Shape)
  | row (fields : List (String × Bool × Shape))
  | refused

/-- What an object is for a shape. -/
inductive ObjectForm where
  | ignored
  | members (fields : List (String × Bool × Shape)) (others : Shape)
  | refused

namespace Shape

/-- What an array is for a shape. -/
def arrayForm : Shape → ArrayForm
  | .any => .items .any
  | .ignored => .ignored
  | .text => .refused
  | .nullable shape => shape.arrayForm
  | .list shape => .items shape
  | .record fields _ row => if row then .row fields else .refused

/-- What an object is for a shape. -/
def objectForm : Shape → ObjectForm
  | .any => .members [] .any
  | .ignored => .ignored
  | .text => .refused
  | .nullable shape => shape.objectForm
  | .list _ => .refused
  | .record fields keepsOthers _ => .members fields (if keepsOthers then .any else .ignored)

/-- What is read of a value that is neither an array nor an object; without value it is a number out
of range or a string without content. -/
def readScalar : Shape → Option Json → Except ReadFault Json
  | .ignored, _ => .ok .null
  | .nullable _, some .null => .ok .null
  | .nullable shape, value? => shape.readScalar value?
  | _, none => .error .malformed
  | .any, some v => .ok v
  | .text, some (.string s) => .ok (.string s)
  | _, some _ => .error .mismatch

end Shape

/-! ## Reading by recursion -/

/-- An object with the members read, if none is missing. -/
def closed (fields : List (String × Bool × Shape)) (done : List (String × Json)) :
    Except ReadFault Json :=
  if complete fields done then .ok (.object done) else .error .mismatch

namespace Tree

mutual

/-- What is read of a text of a shape where there is room for so many arrays and objects inside one
another. -/
def read (room : Nat) : Tree → Shape → Except ReadFault Json
  | .null, shape => shape.readScalar (some .null)
  | .bool b, shape => shape.readScalar (some (.bool b))
  | .number l, shape => shape.readScalar (l.value?.map .number)
  | .string content, shape => shape.readScalar (content.map .string)
  | .array items, shape =>
    match shape.arrayForm, room with
    | .ignored, _ => .ok .null
    | .refused, _ => .error .mismatch
    | _, 0 => .error .malformed
    | .items item, room + 1 => do .ok (.array (← readItems room items item))
    | .row fields, room + 1 => do closed fields (← readRow room items fields [])
  | .object members, shape =>
    match shape.objectForm, room with
    | .ignored, _ => .ok .null
    | .refused, _ => .error .mismatch
    | _, 0 => .error .malformed
    | .members fields others, room + 1 => do
      closed fields (← readMembers room members fields others [])

/-- What is read of items of a shape. -/
def readItems (room : Nat) : List Tree → Shape → Except ReadFault (List Json)
  | [], _ => .ok []
  | item :: items, shape => do
    let v ← item.read room shape
    .ok (v :: (← readItems room items shape))

/-- The members read of items that stand for the members remaining. -/
def readRow (room : Nat) : List Tree → List (String × Bool × Shape) → List (String × Json) →
    Except ReadFault (List (String × Json))
  | [], _, done => .ok done
  | _ :: _, [], _ => .error .malformed
  | item :: items, (key, _, shape) :: remaining, done => do
    let v ← item.read room shape
    readRow room items remaining (insertMember key v done)

/-- The members read of an object. -/
def readMembers (room : Nat) : List (Option String × Tree) → List (String × Bool × Shape) →
    Shape → List (String × Json) → Except ReadFault (List (String × Json))
  | [], _, _, done => .ok done
  | (none, _) :: _, _, _, _ => .error .malformed
  | (some key, value) :: members, fields, others, done =>
    match fieldOf? key fields with
    | some (_, shape) =>
      if (member? key done).isSome then .error .mismatch
      else do
        let v ← value.read room shape
        readMembers room members fields others (insertMember key v done)
    | none => do
      let v ← value.read room others
      readMembers room members fields others (insertMember key v done)

end

end Tree

/-! ## One token -/

namespace Progress

variable (limit : Nat)

theorem run_cons (p : Progress) (t : Token) (ts : List Token) :
    run limit p (t :: ts) = step limit p t >>= fun next => run limit next ts := by
  rw [run]
  cases step limit p t <;> rfl

theorem take_openArray (outer : List Frame) : ∀ shape : Shape,
    take limit outer .openArray shape =
      match shape.arrayForm with
      | .ignored => .ok ⟨.ignoredItems :: outer, .firstItem⟩
      | .refused => .error .mismatch
      | .items item => enter limit (.items item []) .firstItem outer
      | .row fields => enter limit (.row fields fields []) .firstItem outer
  | .nullable shape => take_openArray outer shape
  | .record _ _ true | .record _ _ false => rfl
  | .any | .ignored | .text | .list _ => rfl

theorem take_openObject (outer : List Frame) : ∀ shape : Shape,
    take limit outer .openObject shape =
      match shape.objectForm with
      | .ignored => .ok ⟨.ignoredMembers :: outer, .firstKey⟩
      | .refused => .error .mismatch
      | .members fields others => enter limit (.members fields others [] "") .firstKey outer
  | .nullable shape => take_openObject outer shape
  | .any | .ignored | .text | .list _ | .record _ _ _ => rfl

/-- The value of a token that is neither an array nor an object. -/
def scalar? : Token → Option (Option Json)
  | .null => some (some .null)
  | .bool b => some (some (.bool b))
  | .number l => some (l.value?.map .number)
  | .string content => some (content.map .string)
  | _ => none

theorem take_scalar {token : Token} {value? : Option Json} (h : scalar? token = some value?)
    (outer : List Frame) : ∀ shape : Shape,
      take limit outer token shape = (shape.readScalar value?).map fun v => deliver v outer
  | .nullable shape => by
      have hrest := take_scalar h outer shape
      by_cases hnull : token = .null
      · subst hnull
        obtain rfl := Option.some.inj h
        rfl
      · rw [take, Shape.readScalar, hrest]
        · rintro rfl
          cases token <;> simp [scalar?] at h
          exact hnull rfl
        · exact hnull
  | .any | .ignored | .text | .list _ | .record _ _ _ => by
      cases token with
      | null | bool _ =>
          obtain rfl := Option.some.inj h
          rfl
      | number l =>
          obtain rfl := Option.some.inj h
          simp only [take, takeAny, takeIgnored, refuse]
          cases l.value? <;> rfl
      | string content =>
          obtain rfl := Option.some.inj h
          cases content <;> rfl
      | openArray | closeArray | openObject | closeObject | comma | colon | flaw => cases h

/-- An array or object is read if there is room for it. -/
theorem enter_bind (frame : Frame) (need : Need) (outer : List Frame) (next : Progress → Step) :
    (enter limit frame need outer >>= next) =
      match limit - outer.length with
      | 0 => .error .malformed
      | _ + 1 => next ⟨frame :: outer, need⟩ := by
  unfold enter
  split
  · next hlt =>
    obtain ⟨room, hroom⟩ : ∃ room, limit - outer.length = room + 1 :=
      ⟨limit - outer.length - 1, by omega⟩
    rw [hroom]
    rfl
  · next hle =>
    rw [Nat.sub_eq_zero_of_le (Nat.not_lt.1 hle)]
    rfl

end Progress

/-! ## Whole values -/

namespace Tree

open Progress

/-- The tokens behind the bracket that opens an array. -/
def contentTokens : List Tree → List Token
  | [] => [.closeArray]
  | item :: items => item.tokens ++ itemTokens items

/-- The tokens behind the brace that opens an object. -/
def memberContentTokens : List (Option String × Tree) → List Token
  | [] => [.closeObject]
  | (key, value) :: members =>
    .string key :: .colon :: (value.tokens ++ memberTokens members)

theorem tokens_array (items : List Tree) :
    (Tree.array items).tokens = .openArray :: contentTokens items := by
  cases items <;> rfl

theorem tokens_object (members : List (Option String × Tree)) :
    (Tree.object members).tokens = .openObject :: memberContentTokens members := by
  cases members <;> rfl

theorem exists_tokens_eq : ∀ t : Tree,
    ∃ first rest, t.tokens = first :: rest ∧ first ≠ .closeArray
  | .null | .bool _ | .number _ | .string _ => ⟨_, _, rfl, nofun⟩
  | .array [] | .array (_ :: _) | .object [] | .object (_ :: _) => ⟨_, _, rfl, nofun⟩

variable (limit : Nat)

/-- The content of an array is read like what stands behind an item. -/
theorem run_content (stack : List Frame) (items : List Tree) (rest : List Token) :
    run limit ⟨stack, .firstItem⟩ (contentTokens items ++ rest) =
      run limit ⟨stack, .afterItem⟩ (itemTokens items ++ rest) := by
  cases items with
  | nil => rfl
  | cons item items =>
      obtain ⟨first, more, htokens, hfirst⟩ := exists_tokens_eq item
      show _ = run limit ⟨stack, .afterItem⟩ (.comma :: ((item.tokens ++ itemTokens items) ++ rest))
      rw [contentTokens, htokens, List.cons_append, List.cons_append, run_cons, run_cons]
      cases hnext : nextItem stack with
      | some shape =>
          have hcomma : step limit ⟨stack, .afterItem⟩ .comma = .ok ⟨stack, .value shape⟩ := by
            simp only [step, hnext]
          have hstep : step limit ⟨stack, .firstItem⟩ first =
              step limit ⟨stack, .value shape⟩ first := by
            cases first <;> simp only [step, hnext] <;> exact absurd rfl hfirst
          rw [hcomma, hstep]
          exact (run_cons limit ⟨stack, .value shape⟩ first _).symm
      | none =>
          have hcomma : step limit ⟨stack, .afterItem⟩ .comma = .error .malformed := by
            simp only [step, hnext]
          have hstep : step limit ⟨stack, .firstItem⟩ first = .error .malformed := by
            cases first <;> simp only [step, hnext] <;> exact absurd rfl hfirst
          rw [hcomma, hstep]
          rfl

/-- The content of an object is read like what stands behind a member. -/
theorem run_memberContent (stack : List Frame) (members : List (Option String × Tree))
    (rest : List Token) :
    run limit ⟨stack, .firstKey⟩ (memberContentTokens members ++ rest) =
      run limit ⟨stack, .afterMember⟩ (memberTokens members ++ rest) := by
  cases members <;> rfl

mutual

theorem run_ignored : ∀ (t : Tree) (outer : List Frame) (rest : List Token),
    run limit ⟨outer, .value .ignored⟩ (t.tokens ++ rest) = run limit (deliver .null outer) rest
  | .null, _, _ | .bool _, _, _ | .number _, _, _ | .string _, _, _ => rfl
  | .array items, outer, rest => by
      rw [tokens_array]
      show run limit ⟨.ignoredItems :: outer, .firstItem⟩ (contentTokens items ++ rest) = _
      rw [run_content]
      exact run_ignoredItems items outer rest
  | .object members, outer, rest => by
      rw [tokens_object]
      show run limit ⟨.ignoredMembers :: outer, .firstKey⟩ (memberContentTokens members ++ rest) = _
      rw [run_memberContent]
      exact run_ignoredMembers members outer rest

theorem run_ignoredItems : ∀ (items : List Tree) (outer : List Frame) (rest : List Token),
    run limit ⟨.ignoredItems :: outer, .afterItem⟩ (itemTokens items ++ rest) =
      run limit (deliver .null outer) rest
  | [], _, _ => rfl
  | item :: items, outer, rest => by
      show run limit ⟨.ignoredItems :: outer, .value .ignored⟩
        ((item.tokens ++ itemTokens items) ++ rest) = _
      rw [List.append_assoc, run_ignored item]
      exact run_ignoredItems items outer rest

theorem run_ignoredMembers : ∀ (members : List (Option String × Tree)) (outer : List Frame)
    (rest : List Token), run limit ⟨.ignoredMembers :: outer, .afterMember⟩
      (memberTokens members ++ rest) = run limit (deliver .null outer) rest
  | [], _, _ => rfl
  | (key, value) :: members, outer, rest => by
      show run limit ⟨.ignoredMembers :: outer, .value .ignored⟩
        ((value.tokens ++ memberTokens members) ++ rest) = _
      rw [List.append_assoc, run_ignored value]
      exact run_ignoredMembers members outer rest

end

/-- What follows on the reading of a value. -/
def thenRun (outer : List Frame) (rest : List Token) (read : Except ReadFault Json) : Step :=
  read >>= fun v => run limit (deliver v outer) rest

theorem run_scalar (token : Token) {value? : Option Json} (h : scalar? token = some value?)
    (shape : Shape) (outer : List Frame) (rest : List Token) :
    run limit ⟨outer, .value shape⟩ (token :: rest) =
      thenRun limit outer rest (shape.readScalar value?) := by
  rw [run_cons]
  show (take limit outer token shape >>= _) = _
  rw [take_scalar limit h]
  cases shape.readScalar value? <;> rfl

theorem run_closeRow (fields remaining : List (String × Bool × Shape)) (done : List (String × Json))
    (outer : List Frame) (rest : List Token) :
    run limit ⟨.row fields remaining done :: outer, .afterItem⟩ (.closeArray :: rest) =
      thenRun limit outer rest (closed fields done) := by
  rw [run_cons]
  show (closeArray (.row fields remaining done :: outer) >>= _) = _
  rw [closeArray, closed]
  split <;> rfl

theorem run_closeObject (fields : List (String × Bool × Shape)) (others : Shape)
    (done : List (String × Json)) (key : String) (outer : List Frame) (rest : List Token) :
    run limit ⟨.members fields others done key :: outer, .afterMember⟩ (.closeObject :: rest) =
      thenRun limit outer rest (closed fields done) := by
  rw [run_cons]
  show (closeObject (.members fields others done key :: outer) >>= _) = _
  rw [closeObject, closed]
  split <;> rfl

mutual

/-- The reader comes to what the recursion comes to. -/
theorem run_tokens : ∀ (t : Tree) (shape : Shape) (outer : List Frame) (rest : List Token),
    run limit ⟨outer, .value shape⟩ (t.tokens ++ rest) =
      thenRun limit outer rest (t.read (limit - outer.length) shape)
  | .null, shape, outer, rest => run_scalar limit .null rfl shape outer rest
  | .bool b, shape, outer, rest => run_scalar limit (.bool b) rfl shape outer rest
  | .number l, shape, outer, rest => run_scalar limit (.number l) rfl shape outer rest
  | .string content, shape, outer, rest => run_scalar limit (.string content) rfl shape outer rest
  | .array items, shape, outer, rest => by
      rw [tokens_array, List.cons_append, run_cons]
      show (take limit outer .openArray shape >>= _) = _
      rw [take_openArray]
      have hroom : ∀ room, limit - outer.length = room + 1 → limit - (outer.length + 1) = room := by
        omega
      cases hform : shape.arrayForm with
      | ignored =>
          simp only [read, hform]
          show run limit ⟨.ignoredItems :: outer, .firstItem⟩ (contentTokens items ++ rest) = _
          rw [run_content]
          exact run_ignoredItems limit items outer rest
      | refused =>
          simp only [read, hform]
          rfl
      | items item =>
          simp only [enter_bind]
          cases hspace : limit - outer.length with
          | zero => simp only [read, hform]; rfl
          | succ room =>
              simp only [read, hform]
              rw [run_content, run_items items, hroom room hspace]
              cases readItems room items item <;> rfl
      | row fields =>
          simp only [enter_bind]
          cases hspace : limit - outer.length with
          | zero => simp only [read, hform]; rfl
          | succ room =>
              simp only [read, hform]
              rw [run_content, run_row items, hroom room hspace]
  | .object members, shape, outer, rest => by
      rw [tokens_object, List.cons_append, run_cons]
      show (take limit outer .openObject shape >>= _) = _
      rw [take_openObject]
      cases hform : shape.objectForm with
      | ignored =>
          simp only [read, hform]
          show run limit ⟨.ignoredMembers :: outer, .firstKey⟩
            (memberContentTokens members ++ rest) = _
          rw [run_memberContent]
          exact run_ignoredMembers limit members outer rest
      | refused =>
          simp only [read, hform]
          rfl
      | members fields others =>
          simp only [enter_bind]
          cases hspace : limit - outer.length with
          | zero => simp only [read, hform]; rfl
          | succ room =>
              have hroom : limit - (outer.length + 1) = room := by omega
              simp only [read, hform]
              rw [run_memberContent, run_members members, hroom]

/-- Items behind the first one. -/
theorem run_items : ∀ (items : List Tree) (shape : Shape) (done : List Json) (outer : List Frame)
    (rest : List Token),
    run limit ⟨.items shape done :: outer, .afterItem⟩ (itemTokens items ++ rest) =
      thenRun limit outer rest
        (readItems (limit - (outer.length + 1)) items shape >>= fun vs =>
          .ok (.array (done.reverse ++ vs)))
  | [], shape, done, outer, rest => by
      show run limit (deliver (.array done.reverse) outer) rest =
        run limit (deliver (.array (done.reverse ++ [])) outer) rest
      rw [List.append_nil]
  | item :: items, shape, done, outer, rest => by
      show run limit ⟨.items shape done :: outer, .value shape⟩
        ((item.tokens ++ itemTokens items) ++ rest) = _
      rw [List.append_assoc, run_tokens item, readItems, List.length_cons]
      cases item.read (limit - (outer.length + 1)) shape with
      | error fault => rfl
      | ok v =>
          show run limit ⟨.items shape (v :: done) :: outer, .afterItem⟩
            (itemTokens items ++ rest) = _
          rw [run_items items]
          cases readItems (limit - (outer.length + 1)) items shape with
          | error fault => rfl
          | ok vs =>
              show run limit (deliver (.array ((v :: done).reverse ++ vs)) outer) rest =
                run limit (deliver (.array (done.reverse ++ v :: vs)) outer) rest
              rw [List.reverse_cons, List.append_assoc, List.singleton_append]

/-- Items of a row behind the first one. -/
theorem run_row : ∀ (items : List Tree) (fields remaining : List (String × Bool × Shape))
    (done : List (String × Json)) (outer : List Frame) (rest : List Token),
    run limit ⟨.row fields remaining done :: outer, .afterItem⟩ (itemTokens items ++ rest) =
      thenRun limit outer rest
        (readRow (limit - (outer.length + 1)) items remaining done >>= closed fields)
  | [], fields, remaining, done, outer, rest => run_closeRow limit fields remaining done outer rest
  | _ :: _, _, [], _, _, _ => rfl
  | item :: items, fields, (key, required, shape) :: remaining, done, outer, rest => by
      show run limit ⟨.row fields ((key, required, shape) :: remaining) done :: outer, .value shape⟩
        ((item.tokens ++ itemTokens items) ++ rest) = _
      rw [List.append_assoc, run_tokens item, readRow, List.length_cons]
      cases item.read (limit - (outer.length + 1)) shape with
      | error fault => rfl
      | ok v => exact run_row items fields remaining (insertMember key v done) outer rest

/-- Members behind the first one. -/
theorem run_members : ∀ (members : List (Option String × Tree))
    (fields : List (String × Bool × Shape)) (others : Shape) (done : List (String × Json))
    (key : String) (outer : List Frame) (rest : List Token),
    run limit ⟨.members fields others done key :: outer, .afterMember⟩
        (memberTokens members ++ rest) =
      thenRun limit outer rest
        (readMembers (limit - (outer.length + 1)) members fields others done >>= closed fields)
  | [], fields, others, done, key, outer, rest =>
      run_closeObject limit fields others done key outer rest
  | (none, _) :: _, _, _, _, _, _, _ => rfl
  | (some name, value) :: members, fields, others, done, key, outer, rest => by
      have hvalue : ∀ shape, run limit ⟨.members fields others done name :: outer, .value shape⟩
          (value.tokens ++ (memberTokens members ++ rest)) =
            thenRun limit outer rest
              (value.read (limit - (outer.length + 1)) shape >>= fun v =>
                readMembers (limit - (outer.length + 1)) members fields others
                  (insertMember name v done) >>= closed fields) := by
        intro shape
        rw [run_tokens value, List.length_cons]
        cases value.read (limit - (outer.length + 1)) shape with
        | error fault => rfl
        | ok v => exact run_members members fields others (insertMember name v done) name outer rest
      show run limit ⟨.members fields others done key :: outer, .key⟩
        (.string (some name) :: .colon :: ((value.tokens ++ memberTokens members) ++ rest)) = _
      rw [run_cons, List.append_assoc]
      show (takeKey (some name) (.members fields others done key :: outer) >>= _) = _
      simp only [takeKey, readMembers]
      cases fieldOf? name fields with
      | none =>
          show run limit ⟨.members fields others done name :: outer, .value others⟩ _ = _
          rw [hvalue others]
          cases value.read (limit - (outer.length + 1)) others <;> rfl
      | some field =>
          obtain ⟨required, shape⟩ := field
          cases (member? name done).isSome with
          | true => rfl
          | false =>
              show run limit ⟨.members fields others done name :: outer, .value shape⟩ _ = _
              rw [hvalue shape]
              simp only [Bool.false_eq_true, if_false]
              cases value.read (limit - (outer.length + 1)) shape <;> rfl

end

end Tree

/-- A text is read as the recursion reads what it writes. -/
theorem readAs_eq {text : String} {t : Tree} (h : tokens text = t.tokens) (shape : Shape) :
    readAs shape text = t.read nestingLimit shape := by
  have hrun := t.run_tokens nestingLimit shape [] []
  rw [List.append_nil] at hrun
  unfold readAs readWithin
  rw [h, hrun]
  cases t.read nestingLimit shape <;> rfl

end Prospector.Json
