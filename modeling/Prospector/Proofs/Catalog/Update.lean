import Mathlib.Data.List.Induction
import Mathlib.Data.List.Nodup
import Prospector.Catalog.Basic

/-!
# Updates of catalogs

A catalog is an ordered map from names to listings, but for the listings that come after another one
of their name: no update ever finds those. An update changes the products that are found under one
name and nothing else; a name that was not there comes to the end. From what one update does it
follows what any number of them does, one after the other: the products found under a name are those
of the last update of that name, and its other members are those of the listing that was there or,
if none was, of the first update.

## Main definitions

* `Catalog.names` : the names of the listings.
* `Catalog.merge` : a catalog after several updates.

## Main results

* `Catalog.find?_update`, `Catalog.names_update`, `Catalog.getElem?_update` : one update.
* `Catalog.update_update_self`, `Catalog.update_comm` : the same update twice, two in either order.
* `Catalog.merge_lawful` : several updates.
-/

namespace Prospector

@[simp] theorem Listing.name_ofFindings (name : String) (fs : Findings) :
    (ofFindings name fs).name = name :=
  rfl

namespace Catalog

/-! ## One update -/

/-- What an update does to a listing: the products of the first one with the name are replaced. -/
theorem getElem?_updateListings (new : Listing) {old : Listing} {ls : List Listing} {i : Nat}
    (h : ls[i]? = some old) : (updateListings new ls)[i]? =
      some (if ls.findIdx? (fun l => l.name == new.name) = some i then
        { old with products := new.products } else old) := by
  induction ls generalizing i with
  | nil => cases h
  | cons first ls ih =>
      rw [updateListings, List.findIdx?_cons]
      by_cases hname : first.name = new.name
      · rw [if_pos hname, beq_iff_eq.2 hname, if_pos rfl]
        cases i with
        | zero =>
            obtain rfl := Option.some.inj h
            rfl
        | succ i => exact h
      · rw [if_neg hname, beq_eq_false_iff_ne.2 hname]
        cases i with
        | zero =>
            obtain rfl := Option.some.inj h
            cases ls.findIdx? (fun l => l.name == new.name) <;> simp
        | succ i =>
            rw [List.getElem?_cons_succ, ih h]
            cases ls.findIdx? (fun l => l.name == new.name) <;> simp

/-- An update brings no members that are kept but those of listings that were there. -/
theorem of_mem_updateListings {new l : Listing} {ls : List Listing}
    (h : l ∈ updateListings new ls) : l = new ∨ ∃ old ∈ ls, l.others = old.others := by
  induction ls with
  | nil => exact .inl (List.mem_singleton.1 h)
  | cons first ls ih =>
      rw [updateListings] at h
      split at h
      · rcases List.mem_cons.1 h with rfl | h
        · exact .inr ⟨first, List.mem_cons_self, rfl⟩
        · exact .inr ⟨l, List.mem_cons_of_mem first h, rfl⟩
      · rcases List.mem_cons.1 h with rfl | h
        · exact .inr ⟨l, List.mem_cons_self, rfl⟩
        · obtain hnew | ⟨old, hold, hothers⟩ := ih h
          · exact .inl hnew
          · exact .inr ⟨old, List.mem_cons_of_mem first hold, hothers⟩

/-- The names of the listings of a catalog. -/
def names (c : Catalog) : List String :=
  c.listings.map Listing.name

@[simp] theorem others_update (c : Catalog) (new : Listing) : (c.update new).others = c.others :=
  rfl

/-- What an update does to a listing that was there. -/
theorem getElem?_update {c : Catalog} (new : Listing) {old : Listing} {i : Nat}
    (h : c.listings[i]? = some old) : (c.update new).listings[i]? =
      some (if c.listings.findIdx? (fun l => l.name == new.name) = some i then
        { old with products := new.products } else old) :=
  getElem?_updateListings new h

/-- After an update its products are found under its name; what else was found there is as it
was. -/
theorem find?_update_self (c : Catalog) (new : Listing) : (c.update new).find? new.name =
    some { (c.find? new.name).getD new with products := new.products } := by
  unfold find? update
  induction c.listings with
  | nil => simp [updateListings]
  | cons old rest ih =>
      rw [updateListings]
      by_cases hname : old.name = new.name
      · simp [hname]
      · simpa [hname] using ih

/-- An update does not touch the listings of other names. -/
theorem find?_update_of_ne (c : Catalog) {new : Listing} {name : String} (h : new.name ≠ name) :
    (c.update new).find? name = c.find? name := by
  unfold find? update
  induction c.listings with
  | nil => simp [updateListings, h]
  | cons old rest ih =>
      rw [updateListings]
      by_cases hname : old.name = new.name
      · simp [hname, h]
      · rw [if_neg hname, List.find?_cons, List.find?_cons, ih]

/-- A name that is not there comes to the end. -/
theorem names_update (c : Catalog) (new : Listing) :
    (c.update new).names =
      if c.names.contains new.name then c.names else c.names ++ [new.name] := by
  unfold names update
  induction c.listings with
  | nil => rfl
  | cons old rest ih =>
      rw [updateListings]
      by_cases hname : old.name = new.name
      · simp [hname]
      · rw [if_neg hname, List.map_cons, ih, List.map_cons, List.contains_cons,
          beq_false_of_ne (Ne.symm hname), Bool.false_or]
        split <;> rfl

/-- Names that come to the end do not change which of the listings that were there is the first one
of a name. -/
theorem findIdx?_of_names {c later : Catalog} {more : List String}
    (hnames : later.names = c.names ++ more) (name : String) {i : Nat}
    (h : i < c.listings.length) :
    later.listings.findIdx? (fun l => l.name == name) = some i ↔
      c.listings.findIdx? (fun l => l.name == name) = some i := by
  have hfind : ∀ c : Catalog, c.listings.findIdx? (fun l => l.name == name) =
      c.names.findIdx? (· == name) := by
    intro c
    rw [names, List.findIdx?_map]
    rfl
  have hlt : i < c.names.length := by rwa [names, List.length_map]
  rw [hfind, hfind, hnames, List.findIdx?_append]
  cases hfound : c.names.findIdx? (· == name) with
  | some j => rfl
  | none =>
      simp only [Option.none_or, reduceCtorEq, iff_false, Option.map_eq_some_iff, not_exists]
      omega

/-! ## Two updates -/

/-- The later one of two updates of a name counts. -/
theorem update_update_self (c : Catalog) (new : Listing) : (c.update new).update new =
    c.update new := by
  have hlistings : updateListings new (updateListings new c.listings) =
      updateListings new c.listings := by
    induction c.listings with
    | nil => simp [updateListings]
    | cons old rest ih =>
        rw [updateListings]
        by_cases hname : old.name = new.name
        · simp [hname, updateListings]
        · rw [if_neg hname, updateListings, if_neg hname, ih]
  simp [update, hlistings]

/-- The order of two updates does not count if one of the names is there. -/
theorem update_comm {c : Catalog} {a b : Listing} (hne : a.name ≠ b.name)
    (h : a.name ∈ c.names ∨ b.name ∈ c.names) :
    (c.update a).update b = (c.update b).update a := by
  have hlistings : ∀ ls : List Listing,
      a.name ∈ ls.map Listing.name ∨ b.name ∈ ls.map Listing.name →
      updateListings b (updateListings a ls) = updateListings a (updateListings b ls) := by
    intro ls hls
    induction ls with
    | nil => simp at hls
    | cons old rest ih =>
        by_cases ha : old.name = a.name
        · have hb : old.name ≠ b.name := ha ▸ hne
          simp [updateListings, ha, hne]
        · by_cases hb : old.name = b.name
          · simp [updateListings, hb, hne.symm]
          · have hrest : a.name ∈ rest.map Listing.name ∨ b.name ∈ rest.map Listing.name := by
              simpa [Ne.symm ha, Ne.symm hb] using hls
            simp [updateListings, ha, hb, ih hrest]
  simp [update, hlistings c.listings h]

/-- In either order of two updates the same is found under every name. -/
theorem find?_update_comm (c : Catalog) {a b : Listing} (hne : a.name ≠ b.name) (name : String) :
    ((c.update a).update b).find? name = ((c.update b).update a).find? name := by
  by_cases ha : a.name = name
  · subst ha
    rw [find?_update_of_ne _ hne.symm, find?_update_self, find?_update_self,
      find?_update_of_ne _ hne.symm]
  · by_cases hb : b.name = name
    · subst hb
      rw [find?_update_self, find?_update_of_ne _ hne, find?_update_of_ne _ hne, find?_update_self]
    · rw [find?_update_of_ne _ hb, find?_update_of_ne _ ha, find?_update_of_ne _ ha,
        find?_update_of_ne _ hb]

/-! ## Several updates -/

/-- A catalog after several updates. -/
def merge (c : Catalog) (es : List Listing) : Catalog :=
  es.foldl update c

@[simp] theorem merge_nil (c : Catalog) : c.merge [] = c :=
  rfl

@[simp] theorem merge_concat (c : Catalog) (es : List Listing) (e : Listing) :
    c.merge (es ++ [e]) = (c.merge es).update e := by
  simp [merge]

variable (c : Catalog) (es : List Listing)

theorem others_merge : (c.merge es).others = c.others := by
  induction es using List.reverseRecOn with
  | nil => rfl
  | append_singleton es e ih => rw [merge_concat, others_update, ih]

/-- The products that are found under a name are those of the last update of that name. -/
theorem products_find?_merge (name : String) :
    ((c.merge es).find? name).map Listing.products =
      ((es.filter fun e => e.name == name).getLast?.or (c.find? name)).map Listing.products := by
  induction es using List.reverseRecOn with
  | nil => simp
  | append_singleton es e ih =>
      rw [merge_concat, List.filter_append]
      by_cases hname : e.name = name
      · subst hname
        rw [find?_update_self]
        simp
      · rw [find?_update_of_ne _ hname, ih]
        simp [hname]

/-- The other members that are found under a name are those of the listing that was there, or else
those of the first update of that name. -/
theorem others_find?_merge (name : String) :
    ((c.merge es).find? name).map Listing.others =
      ((c.find? name).or (es.find? fun e => e.name == name)).map Listing.others := by
  induction es using List.reverseRecOn with
  | nil => simp
  | append_singleton es e ih =>
      rw [merge_concat, List.find?_append, ← Option.or_assoc]
      by_cases hname : e.name = name
      · subst hname
        rw [find?_update_self]
        generalize (c.find? e.name).or (es.find? fun l => l.name == e.name) = first at ih ⊢
        cases hfound : (c.merge es).find? e.name with
        | none =>
            obtain rfl : first = none := by simpa [hfound] using ih.symm
            simp
        | some l =>
            rw [hfound, Option.map_some, eq_comm, Option.map_eq_some_iff] at ih
            obtain ⟨old, rfl, hothers⟩ := ih
            simp [hothers]
      · rw [find?_update_of_ne _ hname, ih]
        simp [hname]

/-- New names come to the end, each once, in the order in which they first come up. -/
theorem names_merge : (c.merge es).names =
    c.names ++ ((es.map Listing.name).filter fun name => !c.names.contains name).eraseDups := by
  induction es using List.reverseRecOn with
  | nil => simp
  | append_singleton es e ih =>
      rw [merge_concat, names_update, ih, List.map_append, List.filter_append,
        List.eraseDups_append]
      generalize (es.map Listing.name).filter (fun name => !c.names.contains name) = fresh
      by_cases hold : e.name ∈ c.names
      · simp [hold, List.removeAll]
      · by_cases hfresh : e.name ∈ fresh
        · simp [hold, hfresh, List.removeAll]
        · simp [hold, hfresh, List.removeAll, List.eraseDups_cons]

/-- Names that differ are kept one by one. -/
theorem eraseDups_of_nodup {names : List String} (h : names.Nodup) : names.eraseDups = names := by
  induction names with
  | nil => simp
  | cons name rest ih =>
      obtain ⟨hname, hrest⟩ := List.nodup_cons.1 h
      have hall : rest.filter (fun other => !other == name) = rest := by
        rw [List.filter_eq_self]
        intro other hother
        simpa using ne_of_mem_of_not_mem hother hname
      rw [List.eraseDups_cons, hall, ih hrest]

theorem nodup_names_merge (h : c.names.Nodup) : (c.merge es).names.Nodup := by
  induction es using List.reverseRecOn with
  | nil => exact h
  | append_singleton es e ih =>
      rw [merge_concat, names_update]
      by_cases hold : e.name ∈ (c.merge es).names
      · simpa [hold] using ih
      · rw [if_neg (by simpa using hold), List.nodup_append]
        refine ⟨ih, List.nodup_singleton _, ?_⟩
        intro a ha b hb hsame
        rw [List.mem_singleton] at hb
        exact hold (hb ▸ hsame ▸ ha)

/-- A listing that was there keeps its name and its other members. If it is the first one of its
name, it has the products of the last update of that name. -/
theorem getElem?_merge {c : Catalog} {l : Listing} {i : Nat} (h : c.listings[i]? = some l) :
    (c.merge es).listings[i]? =
      some (if c.listings.findIdx? (fun old => old.name == l.name) = some i then
        { l with products :=
          ((es.filter fun e => e.name == l.name).getLast?.map Listing.products).getD l.products }
      else l) := by
  induction es using List.reverseRecOn with
  | nil => simp [h]
  | append_singleton es e ih =>
      obtain ⟨hlt, -⟩ := List.getElem?_eq_some_iff.1 h
      have hindex := findIdx?_of_names (names_merge c es) e.name hlt
      rw [merge_concat, getElem?_update e ih]
      simp only [hindex]
      by_cases hname : e.name = l.name
      · rw [hname]
        by_cases hfirst : c.listings.findIdx? (fun old => old.name == l.name) = some i
        · simp [hfirst, hname]
        · simp [hfirst]
      · have hother : c.listings.findIdx? (fun old => old.name == e.name) ≠ some i := by
          intro hfirst
          obtain ⟨_, hsame, -⟩ := List.findIdx?_eq_some_iff_getElem.1 hfirst
          rw [List.getElem?_eq_some_iff] at h
          simp [h.2, Ne.symm hname] at hsame
        simp [hother, hname]

/-- Several updates, one after the other. Under a name the products of its last update are found, or
those that were there before; new names come to the end, each once, in the order in which they first
come up; of a listing that was there only the products change, and only if it is the first one of a
name that is updated; a new listing has the other members of the first update of its name. -/
theorem merge_lawful :
    (∀ name, ((c.merge es).find? name).map Listing.products =
      ((es.filter fun e => e.name == name).getLast?.or (c.find? name)).map Listing.products) ∧
    (c.merge es).names =
      c.names ++ ((es.map Listing.name).filter fun name => !c.names.contains name).eraseDups ∧
    (∀ i l, c.listings[i]? = some l → ∃ kept, (c.merge es).listings[i]? = some kept ∧
      kept.name = l.name ∧ kept.others = l.others ∧
      (l.name ∉ es.map Listing.name ∨
        c.listings.findIdx? (fun old => old.name == l.name) ≠ some i → kept = l)) ∧
    (c.merge es).others = c.others ∧
    (∀ name ∉ c.names, ((c.merge es).find? name).map Listing.others =
      (es.find? fun e => e.name == name).map Listing.others) ∧
    (c.names.Nodup → (c.merge es).names.Nodup) := by
  refine ⟨c.products_find?_merge es, c.names_merge es, ?_, c.others_merge es, ?_,
    c.nodup_names_merge es⟩
  · intro i l hl
    refine ⟨_, getElem?_merge es hl, ?_, ?_, ?_⟩
    · split <;> rfl
    · split <;> rfl
    · intro hkept
      by_cases hfirst : c.listings.findIdx? (fun old => old.name == l.name) = some i
      · have hnone : es.filter (fun e => e.name == l.name) = [] := by
          have hnew := hkept.resolve_right (not_not_intro hfirst)
          rw [List.filter_eq_nil_iff]
          intro e he hsame
          exact hnew (List.mem_map.2 ⟨e, he, by simpa using hsame⟩)
        simp [hfirst, hnone]
      · simp [hfirst]
  · intro name hname
    have hnone : c.find? name = none := by
      rw [find?, List.find?_eq_none]
      intro l hl hsame
      exact hname (List.mem_map.2 ⟨l, hl, by simpa using hsame⟩)
    rw [others_find?_merge, hnone, Option.none_or]

/-- Of two listings of one name the first is updated; a new name keeps the members of its first
update and the products of its second. -/
theorem merge_lawful_twins :
    let tea : Listing := { name := "tea", others := [("since", .null)] }
    let ink : Listing := { name := "ink", others := [("note", .bool true)] }
    let c : Catalog := { listings := [tea, tea] }
    let merged := c.merge [ink, { tea with products := [⟨"t", none, none⟩], others := [] },
      { ink with products := [⟨"i", none, none⟩], others := [] }]
    merged.names = ["tea", "tea", "ink"] ∧ merged.listings[1]? = some tea ∧
      (merged.find? "tea").map Listing.products = some [⟨"t", none, none⟩] ∧
      (merged.find? "ink").map Listing.products = some [⟨"i", none, none⟩] ∧
      (merged.find? "ink").map Listing.others = some [("note", .bool true)] := by
  intro tea ink c merged
  obtain ⟨hproducts, hnames, hkept, -, hothers, -⟩ := merge_lawful c
    [ink, { tea with products := [⟨"t", none, none⟩], others := [] },
      { ink with products := [⟨"i", none, none⟩], others := [] }]
  refine ⟨hnames.trans (by decide), ?_, (hproducts "tea").trans rfl, (hproducts "ink").trans rfl,
    (hothers "ink" (by decide)).trans rfl⟩
  obtain ⟨kept, hat, -, -, hsame⟩ := hkept 1 tea rfl
  rw [hat, hsame (.inr (by decide))]

end Catalog

end Prospector
