import Prospector.Proofs.Json.Tree

/-!
# Texts within the limits of the reader

A JSON text is within the limits of the reader if it is not nested too deeply, none of its numbers
is out of range and none of its escapes names half of a surrogate pair. Such a text is never refused
as malformed, apart from an array that stands for a record and has more items than the record has
members; it can only be of another shape.

## Main definitions

* `Json.Tree.fits` : whether a text is within the limits.
* `Json.Tree.Passes` : whether a text within the limits can only be of another shape.

## Main results

* `Json.Tree.passes_any`, `Json.Tree.passes_list`, `Json.Tree.passes_record` : a text passes for a
  shape if its parts pass for those of the shape.
-/

namespace Prospector.Json

/-! ## Known members -/

theorem mem_of_fieldOf? {key : String} {fields : List (String × Bool × Shape)} {f : Bool × Shape}
    (h : fieldOf? key fields = some f) : (key, f) ∈ fields := by
  induction fields with
  | nil => cases h
  | cons first fields ih =>
      obtain ⟨k, required, shape⟩ := first
      rw [fieldOf?] at h
      split at h
      · next heq =>
        obtain rfl := Option.some.inj h
        exact heq ▸ List.mem_cons_self
      · exact List.mem_cons_of_mem _ (ih h)

namespace Tree

/-! ## Limits -/

mutual

/-- Whether a text is within the limits of the reader where there is room for so many arrays and
objects inside one another. -/
def fits (room : Nat) : Tree → Bool
  | .null => true
  | .bool _ => true
  | .number l => l.value?.isSome
  | .string content => content.isSome
  | .array items =>
    match room with
    | 0 => false
    | room + 1 => itemsFit room items
  | .object members =>
    match room with
    | 0 => false
    | room + 1 => membersFit room members

/-- Whether all items are within the limits. -/
def itemsFit (room : Nat) : List Tree → Bool
  | [] => true
  | item :: items => item.fits room && itemsFit room items

/-- Whether all members are within the limits, keys included. -/
def membersFit (room : Nat) : List (Option String × Tree) → Bool
  | [] => true
  | (key, value) :: members => key.isSome && value.fits room && membersFit room members

end

theorem itemsFit_iff {room : Nat} {items : List Tree} :
    itemsFit room items = true ↔ ∀ item ∈ items, item.fits room = true := by
  induction items with
  | nil => simp [itemsFit]
  | cons item items ih => rw [itemsFit, Bool.and_eq_true, ih, List.forall_mem_cons]

theorem membersFit_iff {room : Nat} {members : List (Option String × Tree)} :
    membersFit room members = true ↔
      ∀ m ∈ members, m.1.isSome = true ∧ m.2.fits room = true := by
  induction members with
  | nil => simp [membersFit]
  | cons m members ih =>
      rw [membersFit, Bool.and_eq_true, Bool.and_eq_true, ih, List.forall_mem_cons]

theorem fits_array {room : Nat} {items : List Tree} (h : fits room (.array items) = true) :
    ∃ inner, room = inner + 1 ∧ ∀ item ∈ items, item.fits inner = true := by
  cases room with
  | zero => cases h
  | succ inner => exact ⟨inner, rfl, itemsFit_iff.1 h⟩

theorem fits_object {room : Nat} {members : List (Option String × Tree)}
    (h : fits room (.object members) = true) :
    ∃ inner, room = inner + 1 ∧ ∀ m ∈ members, m.1.isSome = true ∧ m.2.fits inner = true := by
  cases room with
  | zero => cases h
  | succ inner => exact ⟨inner, rfl, membersFit_iff.1 h⟩

/-! ## What fits is not malformed -/

theorem readScalar_ne_malformed {value? : Option Json} (h : value?.isSome = true) :
    ∀ shape : Shape, shape.readScalar value? ≠ .error .malformed
  | .nullable shape => by
      have hinner := readScalar_ne_malformed h shape
      unfold Shape.readScalar
      split <;> simp_all
  | .any | .ignored | .text | .list _ | .record _ _ _ => by
      obtain ⟨v, rfl⟩ := Option.isSome_iff_exists.1 h
      cases v <;> exact nofun

theorem closed_ne_malformed (fields : List (String × Bool × Shape)) (done : List (String × Json)) :
    closed fields done ≠ .error .malformed := by
  unfold closed
  split <;> exact nofun

theorem bind_ne_malformed {α β : Type} {x : Except ReadFault α} {f : α → Except ReadFault β}
    (hx : x ≠ .error .malformed) (hf : ∀ a, f a ≠ .error .malformed) :
    (x >>= f) ≠ .error .malformed := by
  cases x with
  | error fault => exact fun h => hx (congrArg Except.error (Except.error.inj h))
  | ok a => exact hf a

variable {room : Nat}

theorem readItems_ne_malformed {shape : Shape} {items : List Tree}
    (h : ∀ item ∈ items, item.read room shape ≠ .error .malformed) :
    readItems room items shape ≠ .error .malformed := by
  induction items with
  | nil => exact nofun
  | cons item items ih =>
      obtain ⟨hitem, hitems⟩ := List.forall_mem_cons.1 h
      rw [readItems]
      exact bind_ne_malformed hitem fun v => bind_ne_malformed (ih hitems) fun vs => nofun

theorem readRow_ne_malformed {items : List Tree} {remaining : List (String × Bool × Shape)}
    (hlength : items.length ≤ remaining.length)
    (h : ∀ item ∈ items, ∀ f ∈ remaining, item.read room f.2.2 ≠ .error .malformed)
    (done : List (String × Json)) : readRow room items remaining done ≠ .error .malformed := by
  induction items generalizing remaining done with
  | nil => exact nofun
  | cons item items ih =>
      cases remaining with
      | nil => exact absurd hlength (by simp)
      | cons f remaining =>
          obtain ⟨key, required, shape⟩ := f
          rw [readRow]
          refine bind_ne_malformed (h item List.mem_cons_self _ List.mem_cons_self) fun v => ?_
          apply ih (Nat.le_of_succ_le_succ hlength)
          intro other hother f hf
          exact h other (List.mem_cons_of_mem item hother) f (List.mem_cons_of_mem _ hf)

theorem readMembers_ne_malformed {fields : List (String × Bool × Shape)} {others : Shape}
    {members : List (Option String × Tree)} (hkeys : ∀ m ∈ members, m.1.isSome = true)
    (hfields : ∀ m ∈ members, ∀ key required shape, m.1 = some key →
      fieldOf? key fields = some (required, shape) → m.2.read room shape ≠ .error .malformed)
    (hothers : ∀ m ∈ members, m.2.read room others ≠ .error .malformed)
    (done : List (String × Json)) :
    readMembers room members fields others done ≠ .error .malformed := by
  induction members generalizing done with
  | nil =>
      intro h
      cases h
  | cons m members ih =>
      obtain ⟨hkey, hkeys'⟩ := List.forall_mem_cons.1 hkeys
      obtain ⟨hfield, hfields'⟩ := List.forall_mem_cons.1 hfields
      obtain ⟨hother, hothers'⟩ := List.forall_mem_cons.1 hothers
      obtain ⟨key?, value⟩ := m
      obtain ⟨key, rfl⟩ := Option.isSome_iff_exists.1 hkey
      rw [readMembers]
      split
      · next required shape hshape =>
        split
        · intro h
          cases h
        · exact bind_ne_malformed (hfield key required shape rfl hshape) fun v =>
            ih hkeys' hfields' hothers' _
      · exact bind_ne_malformed hother fun v => ih hkeys' hfields' hothers' _

mutual

/-- Where any value may stand, what fits is read. -/
theorem read_any_ne_malformed : ∀ (t : Tree) {room : Nat}, t.fits room = true →
    t.read room .any ≠ .error .malformed
  | .null, _, _ => nofun
  | .bool _, _, _ => nofun
  | .number l, _, h => readScalar_ne_malformed (by simpa [fits] using h) .any
  | .string content, _, h => readScalar_ne_malformed (by simpa [fits] using h) .any
  | .array items, room, h => by
      obtain ⟨inner, rfl, hitems⟩ := fits_array h
      exact bind_ne_malformed (read_any_items items hitems) fun vs => nofun
  | .object members, room, h => by
      obtain ⟨inner, rfl, hmembers⟩ := fits_object h
      exact bind_ne_malformed (read_any_members members hmembers []) fun done =>
        closed_ne_malformed [] done

theorem read_any_items : ∀ (items : List Tree) {room : Nat},
    (∀ item ∈ items, item.fits room = true) → readItems room items .any ≠ .error .malformed
  | [], _, _ => nofun
  | item :: items, room, h => by
      obtain ⟨hitem, hitems⟩ := List.forall_mem_cons.1 h
      rw [readItems]
      exact bind_ne_malformed (read_any_ne_malformed item hitem) fun v =>
        bind_ne_malformed (read_any_items items hitems) fun vs => nofun

theorem read_any_members : ∀ (members : List (Option String × Tree)) {room : Nat},
    (∀ m ∈ members, m.1.isSome = true ∧ m.2.fits room = true) →
      ∀ done, readMembers room members [] .any done ≠ .error .malformed
  | [], _, _, _ => nofun
  | (key?, value) :: members, room, h, done => by
      obtain ⟨⟨hkey, hvalue⟩, hmembers⟩ := List.forall_mem_cons.1 h
      obtain ⟨key, rfl⟩ := Option.isSome_iff_exists.1 hkey
      exact bind_ne_malformed (read_any_ne_malformed value hvalue) fun v =>
        read_any_members members hmembers _

end

/-- Whether a text, wherever it is within the limits, is not refused as malformed where a value of a
shape stands. -/
def Passes (t : Tree) (shape : Shape) : Prop :=
  ∀ room, t.fits room = true → t.read room shape ≠ .error .malformed

theorem passes_any (t : Tree) : t.Passes .any :=
  fun _ => read_any_ne_malformed t

theorem passes_ignored (t : Tree) : t.Passes .ignored := by
  intro room _
  cases t <;> exact nofun

/-- Only arrays and objects have anything about them that the limits leave open. -/
theorem passes_of_compound {shape : Shape} {t : Tree}
    (harray : ∀ items, t = .array items → t.Passes shape)
    (hobject : ∀ members, t = .object members → t.Passes shape) : t.Passes shape := by
  intro room hfits
  cases t with
  | null => exact readScalar_ne_malformed rfl shape
  | bool b => exact readScalar_ne_malformed rfl shape
  | number l => exact readScalar_ne_malformed (by simpa [fits] using hfits) shape
  | string content => exact readScalar_ne_malformed (by simpa [fits] using hfits) shape
  | array items => exact harray items rfl room hfits
  | object members => exact hobject members rfl room hfits

/-- Where neither arrays nor objects may stand, they are of another shape. -/
theorem passes_of_refused {shape : Shape} (harray : shape.arrayForm = .refused)
    (hobject : shape.objectForm = .refused) (t : Tree) : t.Passes shape := by
  apply passes_of_compound
  · rintro items rfl room -
    simp [read, harray]
  · rintro members rfl room -
    simp [read, hobject]

/-- An array passes for a list if its items pass. -/
theorem passes_list {shape : Shape} {t : Tree}
    (h : ∀ items, t = .array items → ∀ item ∈ items, item.Passes shape) :
    t.Passes (.list shape) := by
  apply passes_of_compound
  · rintro items rfl room hfits
    obtain ⟨inner, rfl, hitems⟩ := fits_array hfits
    refine bind_ne_malformed (readItems_ne_malformed fun item hitem => ?_) fun vs => nofun
    exact h items rfl item hitem inner (hitems item hitem)
  · rintro members rfl room -
    exact nofun

/-- An object passes for a record if its known members pass; an array that may stand for the record
passes if it has no more items than the record has members and the items pass. -/
theorem passes_record {fields : List (String × Bool × Shape)} {keepsOthers row : Bool} {t : Tree}
    (hrow : row = true → ∀ items, t = .array items →
      items.length ≤ fields.length ∧ ∀ item ∈ items, ∀ f ∈ fields, item.Passes f.2.2)
    (hfields : ∀ members, t = .object members → ∀ m ∈ members, ∀ f ∈ fields,
      m.1 = some f.1 → m.2.Passes f.2.2) :
    t.Passes (.record fields keepsOthers row) := by
  apply passes_of_compound
  · rintro items rfl room hfits
    obtain ⟨inner, rfl, hitems⟩ := fits_array hfits
    cases row with
    | false => exact nofun
    | true =>
        obtain ⟨hlength, hpass⟩ := hrow rfl items rfl
        refine bind_ne_malformed (readRow_ne_malformed hlength ?_ []) fun done =>
          closed_ne_malformed fields done
        exact fun item hitem f hf => hpass item hitem f hf inner (hitems item hitem)
  · rintro members rfl room hfits
    obtain ⟨inner, rfl, hmembers⟩ := fits_object hfits
    have hothers : ∀ m ∈ members,
        m.2.read inner (if keepsOthers then .any else .ignored) ≠ .error .malformed := by
      intro m hm
      cases keepsOthers with
      | false => exact passes_ignored m.2 inner (hmembers m hm).2
      | true => exact passes_any m.2 inner (hmembers m hm).2
    have hkeys : ∀ m ∈ members, m.1.isSome := fun m hm => (hmembers m hm).1
    refine bind_ne_malformed (readMembers_ne_malformed hkeys ?_ hothers [])
      fun done => closed_ne_malformed fields done
    intro m hm key required shape hkey hfield
    exact hfields members rfl m hm _ (mem_of_fieldOf? hfield) hkey inner (hmembers m hm).2

end Tree

end Prospector.Json
