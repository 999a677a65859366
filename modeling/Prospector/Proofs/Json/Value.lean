import Prospector.Proofs.Json.Record
import Prospector.Proofs.Json.Written

/-!
# Values that come back

The integers of a value that was read fit 64 bits, the members of its objects stand in order, and it
is nested no deeper than the text that it was read from. So it is what is read of the text that it
names, if none of its numbers is a floating-point number: these are written with as few digits as
name them, but read with one rounding more.

## Main definitions

* `Json.Readable` : whether a value can be read where there is room for so many arrays and objects
  inside one another.
* `Json.IsExact` : whether no number of a value is a floating-point number.

## Main results

* `Json.Tree.readable_of_read` : only such values are read.
* `Json.Tree.read_ofJson` : what is read of the text that an exact one names is the value.
* `Json.Tree.read_unique` : the room does not matter to the value that is read.
-/

namespace Prospector.Json

/-! ## Integers -/

/-- Whether an integer fits 64 bits, with or without a sign. -/
def FitsWord (n : Int) : Prop :=
  -(Nat.pow 2 63 : Nat) ≤ n ∧ n ≤ (Literal.maxSignificand : Nat)

theorem integer?_ofInt {n : Int} (h : FitsWord n) : (Literal.ofInt n).integer? = some n := by
  obtain ⟨hlow, hhigh⟩ := h
  have hvalue : Text.decimalValue (Text.decimal n.natAbs) = n.natAbs :=
    Text.decimalValue_decimal n.natAbs
  simp only [Literal.integer?, Literal.ofInt, Option.isSome_none, Bool.or_self, Bool.false_eq_true,
    if_false, hvalue, decide_eq_true_eq, Bool.and_eq_true]
  by_cases hneg : n < 0
  · rw [if_pos hneg, if_pos (by omega)]
    congr 1
    omega
  · rw [if_neg hneg, if_pos (by omega)]
    congr 1
    omega

theorem value?_ofInt {n : Int} (h : FitsWord n) : (Literal.ofInt n).value? = some (.int n) := by
  rw [Literal.value?, integer?_ofInt h]

theorem fitsWord_of_value? {l : Literal} {n : Int} (h : l.value? = some (.int n)) :
    FitsWord n := by
  rw [Literal.value?] at h
  split at h
  · next m hm =>
    obtain rfl := Number.int.inj (Option.some.inj h)
    simp only [Literal.integer?] at hm
    split at hm
    · cases hm
    · split at hm
      · split at hm
        · next hrange =>
          have hn := Option.some.inj hm
          simp only [Bool.and_eq_true, decide_eq_true_eq] at hrange
          constructor <;> omega
        · cases hm
      · split at hm
        · next hrange =>
          have hn := Option.some.inj hm
          constructor <;> omega
        · cases hm
  · cases hsize : l.size? <;> simp [hsize] at h

/-! ## Values -/

/-- Whether a value can be read where there is room for so many arrays and objects inside one
another. -/
inductive Readable : Nat → Json → Prop
  | null {room : Nat} : Readable room .null
  | bool {room : Nat} (b : Bool) : Readable room (.bool b)
  | int {room : Nat} {n : Int} : FitsWord n → Readable room (.number (.int n))
  | float {room : Nat} (x : Binary64) : Readable room (.number (.float x))
  | string {room : Nat} (s : String) : Readable room (.string s)
  | array {room : Nat} {items : List Json} : (∀ v ∈ items, Readable room v) →
      Readable (room + 1) (.array items)
  | object {room : Nat} {members : List (String × Json)} : SortedKeys members →
      (∀ m ∈ members, Readable room m.2) → Readable (room + 1) (.object members)

/-- Whether no number of a value is a floating-point number. -/
inductive IsExact : Json → Prop
  | null : IsExact .null
  | bool (b : Bool) : IsExact (.bool b)
  | int (n : Int) : IsExact (.number (.int n))
  | string (s : String) : IsExact (.string s)
  | array {items : List Json} : (∀ v ∈ items, IsExact v) → IsExact (.array items)
  | object {members : List (String × Json)} :
      (∀ m ∈ members, IsExact m.2) → IsExact (.object members)

namespace Tree

/-- A known member is read if it was not read before. -/
theorem readMembers_known {room : Nat} {fields : List (String × Bool × Shape)} {others : Shape}
    {key : String} {f : Bool × Shape} {value : Tree} {v : Json} {done : List (String × Json)}
    (hfield : fieldOf? key fields = some f) (hnew : member? key done = none)
    (hread : value.read room f.2 = .ok v) (members : List (Option String × Tree)) :
    readMembers room ((some key, value) :: members) fields others done =
      readMembers room members fields others (insertMember key v done) := by
  obtain ⟨required, shape⟩ := f
  rw [readMembers]
  simp only [hfield, hnew, hread, Option.isSome_none, Bool.false_eq_true, if_false, bind,
    Except.bind]

/-- Members of other keys than those of a record are read one after another. -/
theorem readMembers_ofMembers {room : Nat} {fields : List (String × Bool × Shape)} {others : Shape}
    {members : List (String × Json)} (hkeys : ∀ m ∈ members, fieldOf? m.1 fields = none)
    (hvalues : ∀ m ∈ members, (ofJson m.2).read room others = .ok m.2)
    (done : List (String × Json)) :
    readMembers room (ofMembers members) fields others done = .ok (insertMembers members done) := by
  induction members generalizing done with
  | nil => rfl
  | cons m members ih =>
      obtain ⟨hkey, hkeys⟩ := List.forall_mem_cons.1 hkeys
      obtain ⟨hvalue, hvalues⟩ := List.forall_mem_cons.1 hvalues
      rw [ofMembers, readMembers]
      simp only [hkey, hvalue, bind, Except.bind]
      exact ih hkeys hvalues _

theorem readItems_ofItems {room : Nat} {shape : Shape} {items : List Json}
    (h : ∀ v ∈ items, (ofJson v).read room shape = .ok v) :
    readItems room (ofItems items) shape = .ok items := by
  induction items with
  | nil => rfl
  | cons v items ih =>
      obtain ⟨hv, hitems⟩ := List.forall_mem_cons.1 h
      rw [ofItems, readItems, hv, ih hitems]
      rfl

/-- What is read of the text that a value names is the value. -/
theorem read_ofJson {room : Nat} {v : Json} (h : v.Readable room) (hexact : v.IsExact) :
    (ofJson v).read room .any = .ok v := by
  induction h with
  | null | bool b | string s => rfl
  | float x => cases hexact
  | int hword => simp only [ofJson, ofNumber, read, value?_ofInt hword]; rfl
  | array _ ih =>
      cases hexact with
      | array hexact =>
        simp only [ofJson, read, Shape.arrayForm,
          readItems_ofItems fun v hv => ih v hv (hexact v hv)]
        rfl
  | @object room members hsorted _ ih =>
      cases hexact with
      | object hexact =>
        have hvalues : ∀ m ∈ members, (ofJson m.2).read room .any = .ok m.2 :=
          fun m hm => ih m hm (hexact m hm)
        have hread : readMembers room (ofMembers members) [] .any [] =
            .ok (insertMembers members []) := readMembers_ofMembers (fun m _ => rfl) hvalues []
        simp only [ofJson, read, Shape.objectForm, hread, insertMembers_nil hsorted]
        rfl

mutual

/-- Only values of this kind are read. -/
theorem readable_of_read : ∀ (t : Tree) {room : Nat} {v : Json}, t.read room .any = .ok v →
    v.Readable room
  | .null, _, _, h => by
      obtain rfl := Except.ok.inj h
      exact .null
  | .bool b, _, _, h => by
      obtain rfl := Except.ok.inj h
      exact .bool b
  | .number l, _, _, h => by
      rw [read] at h
      cases hl : l.value? with
      | none =>
          rw [hl] at h
          cases h
      | some n =>
          rw [hl] at h
          obtain rfl := Except.ok.inj h
          cases n with
          | int n => exact .int (fitsWord_of_value? hl)
          | float x => exact .float x
  | .string content, _, _, h => by
      cases content with
      | none => cases h
      | some s =>
          obtain rfl := Except.ok.inj h
          exact .string s
  | .array items, room, _, h => by
      cases room with
      | zero => cases h
      | succ room =>
          obtain ⟨vs, hvs, h⟩ := bind_eq_ok.1 h
          obtain rfl := Except.ok.inj h
          exact .array (readable_of_readItems items hvs)
  | .object members, room, _, h => by
      cases room with
      | zero => cases h
      | succ room =>
          obtain ⟨done, hdone, h⟩ := bind_eq_ok.1 h
          obtain rfl := closed_eq_ok h
          refine .object (sortedKeys_readMembers hdone sortedKeys_nil) fun m hm => ?_
          obtain hnil | ⟨value, hvalue, hread⟩ := exists_of_mem_readMembers hdone hm
          · exact absurd hnil List.not_mem_nil
          · exact readable_of_readMembers members hvalue hread

theorem readable_of_readItems : ∀ (items : List Tree) {room : Nat} {vs : List Json},
    readItems room items .any = .ok vs → ∀ v ∈ vs, v.Readable room
  | [], _, _, h => by
      obtain rfl := Except.ok.inj h
      exact fun v hv => absurd hv List.not_mem_nil
  | item :: items, room, vs, h => by
      obtain ⟨v, hv, h⟩ := bind_eq_ok.1 h
      obtain ⟨rest, hrest, h⟩ := bind_eq_ok.1 h
      obtain rfl := Except.ok.inj h
      exact List.forall_mem_cons.2 ⟨readable_of_read item hv, readable_of_readItems items hrest⟩

theorem readable_of_readMembers : ∀ (members : List (Option String × Tree)) {room : Nat}
    {key? : Option String} {value : Tree}, (key?, value) ∈ members →
      ∀ {v : Json}, value.read room .any = .ok v → v.Readable room
  | (_, first) :: members, _, _, _, hmem, _, hread => by
      rcases List.mem_cons.1 hmem with heq | hmem
      · rw [(Prod.mk.inj heq).2] at hread
        exact readable_of_read first hread
      · exact readable_of_readMembers members hmem hread

end

mutual

/-- The room does not matter to the value that is read. -/
theorem read_unique : ∀ (t : Tree) {room room' : Nat} {v v' : Json}, t.read room .any = .ok v →
    t.read room' .any = .ok v' → v = v'
  | .null, _, _, _, _, h, h' | .bool _, _, _, _, _, h, h' | .number _, _, _, _, _, h, h'
  | .string _, _, _, _, _, h, h' => Except.ok.inj (h.symm.trans h')
  | .array items, room, room', _, _, h, h' => by
      cases room with
      | zero => cases h
      | succ room =>
          cases room' with
          | zero => cases h'
          | succ room' =>
              obtain ⟨vs, hvs, h⟩ := bind_eq_ok.1 h
              obtain ⟨vs', hvs', h'⟩ := bind_eq_ok.1 h'
              obtain rfl := readItems_unique items hvs hvs'
              exact Except.ok.inj (h.symm.trans h')
  | .object members, room, room', _, _, h, h' => by
      cases room with
      | zero => cases h
      | succ room =>
          cases room' with
          | zero => cases h'
          | succ room' =>
              obtain ⟨done, hdone, h⟩ := bind_eq_ok.1 h
              obtain ⟨done', hdone', h'⟩ := bind_eq_ok.1 h'
              obtain rfl := readMembers_unique members hdone hdone'
              exact Except.ok.inj (h.symm.trans h')

theorem readItems_unique : ∀ (items : List Tree) {room room' : Nat} {vs vs' : List Json},
    readItems room items .any = .ok vs → readItems room' items .any = .ok vs' → vs = vs'
  | [], _, _, _, _, h, h' => Except.ok.inj (h.symm.trans h')
  | item :: items, _, _, _, _, h, h' => by
      obtain ⟨v, hv, h⟩ := bind_eq_ok.1 h
      obtain ⟨v', hv', h'⟩ := bind_eq_ok.1 h'
      obtain ⟨rest, hrest, h⟩ := bind_eq_ok.1 h
      obtain ⟨rest', hrest', h'⟩ := bind_eq_ok.1 h'
      obtain rfl := read_unique item hv hv'
      obtain rfl := readItems_unique items hrest hrest'
      exact Except.ok.inj (h.symm.trans h')

theorem readMembers_unique : ∀ (members : List (Option String × Tree)) {room room' : Nat}
    {done read read' : List (String × Json)}, readMembers room members [] .any done = .ok read →
      readMembers room' members [] .any done = .ok read' → read = read'
  | [], _, _, _, _, _, h, h' => Except.ok.inj (h.symm.trans h')
  | (key?, value) :: members, _, _, _, _, _, h, h' => by
      obtain ⟨name, v, hname, hv, hrest, -⟩ := readMembers_cons_eq_ok h
      obtain ⟨name', v', hname', hv', hrest', -⟩ := readMembers_cons_eq_ok h'
      obtain rfl := Option.some.inj (hname.symm.trans hname')
      obtain rfl := read_unique value hv hv'
      exact readMembers_unique members hrest hrest'

end

end Tree

end Prospector.Json
