import Prospector.Proofs.Json.Members
import Prospector.Proofs.Json.Tree
import Prospector.Proofs.Text.Parts

/-!
# Lists and records that were read

Where a list or a record is expected, only an array or an object is read. The items of a list are
read one by one. Of the members of a record, each one that was read comes from one of the text, and
each one of the text is found: a known one because it cannot stand there twice, any other one unless
a later one of the same key takes its place.

## Main definitions

* `Json.shapeOf` : what the value of a key may be.
* `Json.Tree.last?` : the member that counts of those with one key.

## Main results

* `Json.Tree.exists_of_read_list`, `Json.Tree.exists_of_read_record` : what was read for a list or
  a record.
* `Json.Tree.exists_of_readMembers`, `Json.Tree.exists_of_last?` : a member of the text is found.
* `Json.Tree.exists_of_mem_readMembers` : a member that was read comes from one of the text.
-/

namespace Prospector.Json

/-- What the value of a key may be. -/
def shapeOf (key : String) (fields : List (String × Bool × Shape)) (others : Shape) : Shape :=
  match fieldOf? key fields with
  | some f => f.2
  | none => others

theorem fieldOf?_eq_none {key : String} {fields : List (String × Bool × Shape)}
    (h : (fields.map (·.1)).contains key = false) : fieldOf? key fields = none := by
  induction fields with
  | nil => rfl
  | cons first fields ih =>
      obtain ⟨k, required, shape⟩ := first
      rw [List.map_cons, List.contains_cons, Bool.or_eq_false_iff] at h
      rw [fieldOf?, if_neg (Ne.symm (beq_eq_false_iff_ne.1 h.1)), ih h.2]

namespace Tree

variable {room : Nat}

theorem closed_eq_ok {fields : List (String × Bool × Shape)} {done : List (String × Json)}
    {v : Json} (h : closed fields done = .ok v) : v = .object done := by
  unfold closed at h
  split at h
  · exact (Except.ok.inj h).symm
  · cases h

theorem forall₂_of_readItems {shape : Shape} {items : List Tree} {vs : List Json}
    (h : readItems room items shape = .ok vs) :
    List.Forall₂ (fun item v => item.read room shape = .ok v) items vs := by
  induction items generalizing vs with
  | nil =>
      obtain rfl := Except.ok.inj h
      exact .nil
  | cons item items ih =>
      rw [readItems] at h
      obtain ⟨v, hv, h⟩ := bind_eq_ok.1 h
      obtain ⟨rest, hrest, h⟩ := bind_eq_ok.1 h
      obtain rfl := Except.ok.inj h
      exact .cons hv (ih hrest)

variable {fields : List (String × Bool × Shape)} {others : Shape}
  {members : List (Option String × Tree)} {done read : List (String × Json)}

/-- The first member is read before the others; if it is one of the record, it is read for the first
time. -/
theorem readMembers_cons_eq_ok {name? : Option String} {value : Tree}
    (h : readMembers room ((name?, value) :: members) fields others done = .ok read) :
    ∃ name v, name? = some name ∧ value.read room (shapeOf name fields others) = .ok v ∧
      readMembers room members fields others (insertMember name v done) = .ok read ∧
      ∀ f, fieldOf? name fields = some f → member? name done = none := by
  cases name? with
  | none => cases h
  | some name =>
      rw [readMembers] at h
      split at h
      · next required shape hfield =>
        split at h
        · cases h
        · next hnew =>
          obtain ⟨v, hv, h⟩ := bind_eq_ok.1 h
          refine ⟨name, v, rfl, ?_, h, fun _ _ => Option.not_isSome_iff_eq_none.1 hnew⟩
          rwa [shapeOf, hfield]
      · next hfield =>
        obtain ⟨v, hv, h⟩ := bind_eq_ok.1 h
        refine ⟨name, v, rfl, ?_, h, fun f hf => ?_⟩
        · rwa [shapeOf, hfield]
        · rw [hfield] at hf
          cases hf

/-- Members read later leave those of the record alone that were read before. -/
theorem member?_of_readMembers (h : readMembers room members fields others done = .ok read)
    {key : String} {f : Bool × Shape} (hfield : fieldOf? key fields = some f) {v : Json}
    (hv : member? key done = some v) : member? key read = some v := by
  induction members generalizing done with
  | nil => exact Except.ok.inj h ▸ hv
  | cons m members ih =>
      obtain ⟨name, w, -, -, hrest, hnew⟩ := readMembers_cons_eq_ok h
      have hname : name ≠ key := by
        rintro rfl
        rw [hnew f hfield] at hv
        cases hv
      exact ih hrest ((member?_insertMember_of_ne hname w done).trans hv)

/-- A member of the record that was read is found. -/
theorem exists_of_readMembers (h : readMembers room members fields others done = .ok read)
    {key : String} {value : Tree} (hmem : (some key, value) ∈ members) {required : Bool}
    {shape : Shape} (hfield : fieldOf? key fields = some (required, shape)) :
    ∃ v, value.read room shape = .ok v ∧ member? key read = some v := by
  induction members generalizing done with
  | nil => exact absurd hmem List.not_mem_nil
  | cons m members ih =>
      obtain ⟨name, v, hname, hv, hrest, -⟩ := readMembers_cons_eq_ok h
      rcases List.mem_cons.1 hmem with rfl | hmem
      · obtain rfl := Option.some.inj hname
        rw [shapeOf, hfield] at hv
        exact ⟨v, hv, member?_of_readMembers hrest hfield (member?_insertMember_self key v done)⟩
      · exact ih hrest hmem

/-- Every member that was read comes from one of the text. -/
theorem exists_of_mem_readMembers (h : readMembers room members fields others done = .ok read)
    {m : String × Json} (hm : m ∈ read) :
    m ∈ done ∨ ∃ value, (some m.1, value) ∈ members ∧
      value.read room (shapeOf m.1 fields others) = .ok m.2 := by
  induction members generalizing done with
  | nil => exact .inl (Except.ok.inj h ▸ hm)
  | cons first members ih =>
      obtain ⟨name, v, hname, hv, hrest, -⟩ := readMembers_cons_eq_ok h
      rcases ih hrest with hdone | ⟨value, hvalue, hread⟩
      · rcases mem_of_mem_insertMember hdone with rfl | hdone
        · exact .inr ⟨first.2, by rw [← hname]; exact List.mem_cons_self, hv⟩
        · exact .inl hdone
      · exact .inr ⟨value, List.mem_cons_of_mem _ hvalue, hread⟩

theorem sortedKeys_readMembers (h : readMembers room members fields others done = .ok read)
    (hdone : SortedKeys done) : SortedKeys read := by
  induction members generalizing done with
  | nil => exact Except.ok.inj h ▸ hdone
  | cons m members ih =>
      obtain ⟨name, v, -, -, hrest, -⟩ := readMembers_cons_eq_ok h
      exact ih hrest (hdone.insertMember name v)

/-! ## Members of any key -/

/-- The value of the last member with a key. -/
def last? (key : String) : List (Option String × Tree) → Option Tree
  | [] => none
  | (key?, value) :: members =>
    match last? key members with
    | some later => some later
    | none => if key? = some key then some value else none

/-- A key that does not stand in the text is found where it was found before. -/
theorem member?_of_last?_eq_none (h : readMembers room members fields others done = .ok read)
    {key : String} (hkey : last? key members = none) : member? key read = member? key done := by
  induction members generalizing done with
  | nil => rw [Except.ok.inj h]
  | cons m members ih =>
      obtain ⟨name, v, hname, -, hrest, -⟩ := readMembers_cons_eq_ok h
      rw [last?] at hkey
      split at hkey
      · cases hkey
      · next hlater =>
        split at hkey
        · cases hkey
        · next hne =>
          have hother : name ≠ key := fun heq => hne (hname.trans (congrArg some heq))
          rw [ih hrest hlater, member?_insertMember_of_ne hother]

/-- The last member with a key is found. -/
theorem exists_of_last? (h : readMembers room members fields others done = .ok read)
    {key : String} {value : Tree} (hkey : last? key members = some value) :
    ∃ v, value.read room (shapeOf key fields others) = .ok v ∧ member? key read = some v := by
  induction members generalizing done with
  | nil => cases hkey
  | cons m members ih =>
      obtain ⟨name, v, hname, hv, hrest, -⟩ := readMembers_cons_eq_ok h
      rw [last?] at hkey
      split at hkey
      · next later hlater =>
        obtain rfl := Option.some.inj hkey
        exact ih hrest hlater
      · next hlater =>
        split at hkey
        · next heq =>
          obtain rfl := Option.some.inj hkey
          obtain rfl := Option.some.inj (hname.symm.trans heq)
          exact ⟨v, hv, by
            rw [member?_of_last?_eq_none hrest hlater, member?_insertMember_self]⟩
        · cases hkey

/-! ## Lists and records -/

/-- What was read for a list was read item by item from an array. -/
theorem exists_of_read_list {t : Tree} {shape : Shape} {v : Json}
    (h : t.read room (.list shape) = .ok v) :
    ∃ inner items vs, room = inner + 1 ∧ t = .array items ∧ v = .array vs ∧
      readItems inner items shape = .ok vs := by
  cases t with
  | null | bool b => cases h
  | number l => cases hl : l.value? <;> simp [Tree.read, hl, Shape.readScalar] at h
  | string content => cases content <;> cases h
  | object members => cases room <;> cases h
  | array items =>
      cases room with
      | zero => cases h
      | succ inner =>
          obtain ⟨vs, hvs, h⟩ := bind_eq_ok.1 h
          exact ⟨inner, items, vs, rfl, rfl, (Except.ok.inj h).symm, hvs⟩

/-- What was read for a record was read member by member from an object, unless the record may be an
array and is one. -/
theorem exists_of_read_record {t : Tree} {keepsOthers row : Bool} {v : Json}
    (h : t.read room (.record fields keepsOthers row) = .ok v) :
    (row = true ∧ ∃ items, t = .array items) ∨
      ∃ inner members done, room = inner + 1 ∧ t = .object members ∧ v = .object done ∧
        readMembers inner members fields (if keepsOthers then .any else .ignored) [] =
          .ok done := by
  cases t with
  | null | bool b => cases h
  | number l => cases hl : l.value? <;> simp [Tree.read, hl, Shape.readScalar] at h
  | string content => cases content <;> cases h
  | array items =>
      cases row with
      | true => exact .inl ⟨rfl, items, rfl⟩
      | false => cases room <;> cases h
  | object members =>
      cases room with
      | zero => cases h
      | succ inner =>
          obtain ⟨done, hdone, h⟩ := bind_eq_ok.1 h
          exact .inr ⟨inner, members, done, rfl, rfl, closed_eq_ok h, hdone⟩

end Tree

end Prospector.Json
