import Prospector.Json.Basic

/-!
# Members of an object

The members of an object stand in ascending order of their keys, so what is found under each key
decides the members. A member takes its place among the others wherever it comes from: members that
are inserted one after another in order are found again, and those that were there before are found
unless they were replaced.

## Main definitions

* `Json.SortedKeys` : whether members stand in ascending order of their keys.
* `Json.insertMembers` : members with further ones.

## Main results

* `Json.eq_of_sortedKeys` : what is found under each key decides the members.
* `Json.insertMembers_nil` : members in order are read as they stand.
* `Json.filter_insertMembers` : members of other keys than those before are found as they stood.
-/

namespace Prospector.Json

/-! ## Kinds of values -/

theorem eq_string_of_string? {j : Json} {s : String} (h : j.string? = some s) : j = .string s := by
  cases j with
  | string text => exact congrArg Json.string (Option.some.inj h)
  | null | bool _ | number _ | array _ | object _ => cases h

theorem eq_array_of_array? {j : Json} {items : List Json} (h : j.array? = some items) :
    j = .array items := by
  cases j with
  | array found => exact congrArg Json.array (Option.some.inj h)
  | null | bool _ | number _ | string _ | object _ => cases h

/-! ## Finding a member -/

@[simp] theorem member?_insertMember_self (key : String) (v : Json)
    (members : List (String × Json)) : member? key (insertMember key v members) = some v := by
  induction members with
  | nil => simp [insertMember, member?]
  | cons m members ih =>
      obtain ⟨k, w⟩ := m
      rw [insertMember]
      split
      · simp [member?]
      · next hne =>
        split
        · simp [member?]
        · rw [member?, if_neg (Ne.symm hne), ih]

theorem member?_insertMember_of_ne {key other : String} (h : key ≠ other) (v : Json)
    (members : List (String × Json)) :
    member? other (insertMember key v members) = member? other members := by
  induction members with
  | nil => simp [insertMember, member?, h]
  | cons m members ih =>
      obtain ⟨k, w⟩ := m
      rw [insertMember]
      split
      · next heq =>
        subst heq
        simp [member?, h]
      · split
        · simp [member?, h]
        · simp only [member?, ih]

theorem mem_of_member? {key : String} {v : Json} {members : List (String × Json)}
    (h : member? key members = some v) : (key, v) ∈ members := by
  induction members with
  | nil => cases h
  | cons m members ih =>
      obtain ⟨k, w⟩ := m
      rw [member?] at h
      split at h
      · next heq =>
        obtain rfl := Option.some.inj h
        exact heq ▸ List.mem_cons_self
      · exact List.mem_cons_of_mem _ (ih h)

theorem member?_eq_none {key : String} {members : List (String × Json)}
    (h : ∀ m ∈ members, m.1 ≠ key) : member? key members = none := by
  cases hfound : member? key members with
  | none => rfl
  | some v => exact absurd rfl (h _ (mem_of_member? hfound))

theorem member?_filter (keep : String → Bool) (key : String) (members : List (String × Json)) :
    member? key (members.filter fun m => keep m.1) =
      if keep key then member? key members else none := by
  induction members with
  | nil => simp [member?]
  | cons m members ih =>
      obtain ⟨k, w⟩ := m
      by_cases hkeep : keep k
      · rw [List.filter_cons_of_pos (by exact hkeep), member?, member?, ih]
        by_cases heq : k = key
        · rw [if_pos heq, if_pos heq, ← heq, if_pos hkeep]
        · rw [if_neg heq, if_neg heq]
      · rw [List.filter_cons_of_neg (by exact hkeep), member?, ih]
        by_cases heq : k = key
        · rw [← heq, if_neg hkeep, if_neg hkeep]
        · rw [if_neg heq]

theorem mem_of_mem_insertMember {key : String} {v : Json} {members : List (String × Json)}
    {m : String × Json} (h : m ∈ insertMember key v members) : m = (key, v) ∨ m ∈ members := by
  induction members with
  | nil => exact .inl (List.mem_singleton.1 h)
  | cons first members ih =>
      obtain ⟨k, w⟩ := first
      rw [insertMember] at h
      split at h
      · rcases List.mem_cons.1 h with rfl | h
        · exact .inl rfl
        · exact .inr (List.mem_cons_of_mem _ h)
      · split at h
        · exact (List.mem_cons.1 h).imp_right id
        · rcases List.mem_cons.1 h with rfl | h
          · exact .inr List.mem_cons_self
          · exact (ih h).imp_right (List.mem_cons_of_mem _)

/-! ## Members in order -/

/-- Whether members stand in ascending order of their keys, each key once. -/
def SortedKeys (members : List (String × Json)) : Prop :=
  members.Pairwise fun m n => m.1 < n.1

theorem sortedKeys_nil : SortedKeys [] :=
  List.Pairwise.nil

theorem SortedKeys.filter {members : List (String × Json)} (h : SortedKeys members)
    (keep : String × Json → Bool) : SortedKeys (members.filter keep) :=
  List.Pairwise.filter keep h

theorem SortedKeys.insertMember {members : List (String × Json)} (h : SortedKeys members)
    (key : String) (v : Json) : SortedKeys (insertMember key v members) := by
  induction members with
  | nil => exact List.pairwise_singleton _ _
  | cons m members ih =>
      obtain ⟨k, w⟩ := m
      obtain ⟨hfirst, hrest⟩ := List.pairwise_cons.1 h
      rw [Json.insertMember]
      split
      · next heq => exact List.pairwise_cons.2 ⟨heq ▸ hfirst, hrest⟩
      · next hne =>
        split
        · next hlt =>
          refine List.pairwise_cons.2 ⟨fun n hn => ?_, h⟩
          rcases List.mem_cons.1 hn with rfl | hn
          · exact hlt
          · exact String.lt_trans hlt (hfirst n hn)
        · next hnot =>
          refine List.pairwise_cons.2 ⟨fun n hn => ?_, ih hrest⟩
          rcases mem_of_mem_insertMember hn with rfl | hn
          · exact Std.lt_of_le_of_ne (String.not_lt.1 hnot) (Ne.symm hne)
          · exact hfirst n hn

/-- In order, no member has the key of one that stands further behind. -/
theorem SortedKeys.ne_of_mem {m : String × Json} {members : List (String × Json)}
    (h : SortedKeys (m :: members)) : ∀ n ∈ members, n.1 ≠ m.1 := by
  intro n hn heq
  have hlt : m.1 < n.1 := (List.pairwise_cons.1 h).1 n hn
  rw [heq] at hlt
  exact String.lt_irrefl m.1 hlt

theorem SortedKeys.member?_of_mem {members : List (String × Json)} (h : SortedKeys members)
    {key : String} {v : Json} (hmem : (key, v) ∈ members) : member? key members = some v := by
  induction members with
  | nil => exact absurd hmem List.not_mem_nil
  | cons m members ih =>
      obtain ⟨k, w⟩ := m
      rcases List.mem_cons.1 hmem with heq | hmem
      · obtain ⟨rfl, rfl⟩ := Prod.mk.inj heq
        exact if_pos rfl
      · rw [member?, if_neg (Ne.symm (h.ne_of_mem _ hmem)), ih (List.pairwise_cons.1 h).2 hmem]

/-- What is found under each key decides members in order. -/
theorem eq_of_sortedKeys {members others : List (String × Json)} (hmembers : SortedKeys members)
    (hothers : SortedKeys others) (h : ∀ key, member? key members = member? key others) :
    members = others := by
  induction members generalizing others with
  | nil =>
      cases others with
      | nil => rfl
      | cons m others =>
          have hfound := h m.1
          rw [hothers.member?_of_mem List.mem_cons_self] at hfound
          cases hfound
  | cons m members ih =>
      cases others with
      | nil =>
          have hfound := h m.1
          rw [hmembers.member?_of_mem List.mem_cons_self] at hfound
          cases hfound
      | cons n others =>
          have hm : m ∈ n :: others := by
            apply mem_of_member?
            rw [← h, hmembers.member?_of_mem List.mem_cons_self]
          have hn : n ∈ m :: members := by
            apply mem_of_member?
            rw [h, hothers.member?_of_mem List.mem_cons_self]
          obtain rfl : m = n := by
            rcases List.mem_cons.1 hm with heq | hm
            · exact heq
            · rcases List.mem_cons.1 hn with heq | hn
              · exact heq.symm
              · -- each of the two would stand before the other
                exact absurd ((List.pairwise_cons.1 hmembers).1 n hn)
                  (String.lt_asymm ((List.pairwise_cons.1 hothers).1 m hm))
          rw [ih (List.pairwise_cons.1 hmembers).2 (List.pairwise_cons.1 hothers).2 fun key => ?_]
          by_cases heq : m.1 = key
          · rw [member?_eq_none (heq ▸ hmembers.ne_of_mem),
              member?_eq_none (heq ▸ hothers.ne_of_mem)]
          · have hfound := h key
            rwa [member?, member?, if_neg heq, if_neg heq] at hfound

/-! ## Further members -/

/-- Members with further ones, inserted one after another. -/
def insertMembers (more members : List (String × Json)) : List (String × Json) :=
  more.foldl (fun sorted m => insertMember m.1 m.2 sorted) members

theorem mem_of_mem_insertMembers {more members : List (String × Json)} {m : String × Json}
    (h : m ∈ insertMembers more members) : m ∈ more ∨ m ∈ members := by
  induction more generalizing members with
  | nil => exact .inr h
  | cons first more ih =>
      rcases ih h with hmore | hrest
      · exact .inl (List.mem_cons_of_mem first hmore)
      · rcases mem_of_mem_insertMember hrest with rfl | hmembers
        · exact .inl List.mem_cons_self
        · exact .inr hmembers

theorem SortedKeys.insertMembers {members : List (String × Json)} (h : SortedKeys members)
    (more : List (String × Json)) : SortedKeys (insertMembers more members) := by
  induction more generalizing members with
  | nil => exact h
  | cons m more ih => exact ih (h.insertMember m.1 m.2)

theorem member?_insertMembers {more : List (String × Json)} (h : SortedKeys more) (key : String)
    (members : List (String × Json)) :
    member? key (insertMembers more members) = (member? key more).or (member? key members) := by
  induction more generalizing members with
  | nil => rfl
  | cons m more ih =>
      obtain ⟨k, v⟩ := m
      rw [insertMembers, List.foldl_cons]
      show member? key (Json.insertMembers more _) = _
      rw [ih (List.pairwise_cons.1 h).2]
      by_cases heq : k = key
      · subst heq
        rw [member?_eq_none h.ne_of_mem, member?_insertMember_self, member?, if_pos rfl]
        rfl
      · rw [member?_insertMember_of_ne heq, member?, if_neg heq]

/-- Members in order are inserted as they stand. -/
theorem insertMembers_nil {members : List (String × Json)} (h : SortedKeys members) :
    insertMembers members [] = members := by
  refine eq_of_sortedKeys (sortedKeys_nil.insertMembers members) h fun key => ?_
  rw [member?_insertMembers h, member?, Option.or_none]

/-- Members in order whose keys are kept are found as they stood, if none is kept of those
before. -/
theorem filter_insertMembers {more members : List (String × Json)} (hmore : SortedKeys more)
    (hmembers : SortedKeys members) (keep : String → Bool) (hkept : ∀ m ∈ more, keep m.1 = true)
    (hdropped : ∀ m ∈ members, keep m.1 = false) :
    ((insertMembers more members).filter fun m => keep m.1) = more := by
  refine eq_of_sortedKeys ((hmembers.insertMembers more).filter _) hmore fun key => ?_
  rw [member?_filter, member?_insertMembers hmore]
  cases hfound : member? key more with
  | some v => rw [if_pos (hkept _ (mem_of_member? hfound)), Option.some_or]
  | none =>
      rw [Option.none_or]
      cases hbefore : member? key members with
      | none => exact ite_self _
      | some v =>
          have hkey : keep key = false := hdropped _ (mem_of_member? hbefore)
          rw [hkey, if_neg Bool.false_ne_true]

end Prospector.Json
