import Prospector.Proofs.Json.Value

/-!
# Places in a JSON document

A place of a document is reached from outside by keys and positions. What a text has at a place is
what is read of the part of the text that stands there; of several members with one key the last one
counts. So a value that was read has at each place what the text has there, and the text that a
value names has at each place what the value has there.

## Main definitions

* `Json.Pointer` : a place, as the keys and positions on the way to it.
* `Json.at?`, `Json.Tree.at?` : the part of a value and of a text that stands at a place.
* `Json.Tree.ValueAt` : whether a text has a value at a place.

## Main results

* `Json.Tree.at?_of_valueAt` : a value that was read has what the text has.
* `Json.Tree.at?_ofJson`, `Json.Tree.valueAt_ofJson` : the text that a value names has what the
  value has.
-/

namespace Prospector.Json

/-! ## Places -/

/-- One part of the way to a place. -/
inductive Turn where
  /-- The value under a key of an object. -/
  | key (name : String)
  /-- The item at a position of an array. -/
  | item (position : Nat)
  deriving DecidableEq, Repr

/-- A place of a document: the way to it. -/
abbrev Pointer := List Turn

/-- The part of a value at a place. -/
def at? : Json → Pointer → Option Json
  | v, [] => some v
  | .object members, .key name :: rest => (member? name members).bind fun v => v.at? rest
  | .array items, .item i :: rest => items[i]?.bind fun v => v.at? rest
  | _, _ => none

namespace Tree

/-- The part of a text at a place. -/
def at? : Tree → Pointer → Option Tree
  | t, [] => some t
  | .object members, .key name :: rest => (last? name members).bind fun t => t.at? rest
  | .array items, .item i :: rest => items[i]?.bind fun t => t.at? rest
  | _, _ => none

/-- Whether a text has a value at a place, however deep the value is nested. -/
def ValueAt (t : Tree) (place : Pointer) (v : Json) : Prop :=
  ∃ part room, t.at? place = some part ∧ part.read room .any = .ok v

theorem at?_key {t part : Tree} {name : String} {place : Pointer}
    (h : t.at? (.key name :: place) = some part) :
    ∃ members value, t = .object members ∧ last? name members = some value ∧
      value.at? place = some part := by
  cases t with
  | object members =>
      obtain ⟨value, hvalue, hpart⟩ := Option.bind_eq_some_iff.1 h
      exact ⟨members, value, rfl, hvalue, hpart⟩
  | null | bool _ | number _ | string _ | array _ => cases h

theorem at?_item {t part : Tree} {i : Nat} {place : Pointer}
    (h : t.at? (.item i :: place) = some part) :
    ∃ items item, t = .array items ∧ items[i]? = some item ∧ item.at? place = some part := by
  cases t with
  | array items =>
      obtain ⟨item, hitem, hpart⟩ := Option.bind_eq_some_iff.1 h
      exact ⟨items, item, rfl, hitem, hpart⟩
  | null | bool _ | number _ | string _ | object _ => cases h

/-! ## Values that were read -/

/-- A value that was read has at each place what the text has there. -/
theorem at?_of_valueAt {t : Tree} {room : Nat} {read v : Json} {place : Pointer}
    (hread : t.read room .any = .ok read) (h : t.ValueAt place v) : read.at? place = some v := by
  obtain ⟨part, room', hpart, hv⟩ := h
  induction place generalizing t room read with
  | nil =>
      obtain rfl := Option.some.inj hpart
      rw [Json.at?, read_unique t hread hv]
  | cons turn place ih =>
      cases turn with
      | key name =>
          obtain ⟨members, value, rfl, hvalue, hpart⟩ := at?_key hpart
          cases room with
          | zero => cases hread
          | succ room =>
              obtain ⟨done, hdone, hread⟩ := bind_eq_ok.1 hread
              obtain rfl := closed_eq_ok hread
              obtain ⟨w, hw, hfound⟩ := exists_of_last? hdone hvalue
              rw [Json.at?, hfound, Option.bind_some]
              exact ih hw hpart
      | item i =>
          obtain ⟨items, item, rfl, hitem, hpart⟩ := at?_item hpart
          cases room with
          | zero => cases hread
          | succ room =>
              obtain ⟨vs, hvs, hread⟩ := bind_eq_ok.1 hread
              obtain rfl := Except.ok.inj hread
              obtain ⟨w, hw, hread⟩ :=
                Text.exists_getElem?_of_forall₂ (forall₂_of_readItems hvs) hitem
              rw [Json.at?, hw, Option.bind_some]
              exact ih hread hpart

end Tree

/-! ## Values that are written -/

/-- Whether no object of a value has a key twice. -/
inductive KeysOnce : Json → Prop
  | null : KeysOnce .null
  | bool (b : Bool) : KeysOnce (.bool b)
  | number (n : Number) : KeysOnce (.number n)
  | string (s : String) : KeysOnce (.string s)
  | array {items : List Json} : (∀ v ∈ items, KeysOnce v) → KeysOnce (.array items)
  | object {members : List (String × Json)} : (members.Pairwise fun m n => m.1 ≠ n.1) →
      (∀ m ∈ members, KeysOnce m.2) → KeysOnce (.object members)

theorem SortedKeys.pairwise_ne {members : List (String × Json)} (h : SortedKeys members) :
    members.Pairwise fun m n => m.1 ≠ n.1 := by
  refine List.Pairwise.imp (fun {m n} hlt heq => ?_) h
  rw [heq] at hlt
  exact String.lt_irrefl n.1 hlt

theorem Readable.keysOnce {room : Nat} {v : Json} (h : v.Readable room) : v.KeysOnce := by
  induction h with
  | null => exact .null
  | bool b => exact .bool b
  | int _ | float _ => exact .number _
  | string s => exact .string s
  | array _ ih => exact .array ih
  | object hsorted _ ih => exact .object hsorted.pairwise_ne ih

namespace Tree

theorem last?_ofMembers {members : List (String × Json)}
    (h : members.Pairwise fun m n => m.1 ≠ n.1) (name : String) :
    last? name (ofMembers members) = (member? name members).map ofJson := by
  induction members with
  | nil => rfl
  | cons m members ih =>
      obtain ⟨key, v⟩ := m
      obtain ⟨hfirst, hrest⟩ := List.pairwise_cons.1 h
      rw [ofMembers, last?, ih hrest, member?]
      by_cases heq : key = name
      · have hnone : member? name members = none :=
          member?_eq_none fun n hn => heq ▸ Ne.symm (hfirst n hn)
        rw [hnone, heq]
        simp
      · cases member? name members <;> simp [heq]

/-- The text that a value names has at each place what the value has there. -/
theorem at?_ofJson {v : Json} (h : v.KeysOnce) (place : Pointer) :
    (ofJson v).at? place = (v.at? place).map ofJson := by
  induction place generalizing v with
  | nil =>
      rw [Tree.at?, Json.at?]
      rfl
  | cons turn place ih =>
      cases h with
      | @array items hitems =>
          cases turn with
          | key name => rfl
          | item i =>
              rw [ofJson, Tree.at?, Json.at?, ofItems_eq_map, List.getElem?_map]
              cases hitem : items[i]? with
              | none => rfl
              | some w => exact ih (hitems w (List.mem_of_getElem? hitem))
      | @object members hkeys hmembers =>
          cases turn with
          | item i => rfl
          | key name =>
              rw [ofJson, Tree.at?, Json.at?, last?_ofMembers hkeys]
              cases hfound : member? name members with
              | none => rfl
              | some w => exact ih (hmembers _ (mem_of_member? hfound))
      | number n =>
          rw [ofJson]
          cases n with
          | int n => cases turn <;> rfl
          | float x =>
              rw [ofNumber]
              split <;> cases turn <;> rfl
      | null | bool _ | string _ => cases turn <;> rfl

theorem valueAt_ofJson {v part : Json} {place : Pointer} {room : Nat} (h : v.KeysOnce)
    (hpart : v.at? place = some part) (hreadable : part.Readable room) (hexact : part.IsExact) :
    (ofJson v).ValueAt place part := by
  refine ⟨ofJson part, room, ?_, read_ofJson hreadable hexact⟩
  rw [at?_ofJson h, hpart, Option.map_some]

end Tree

end Prospector.Json
