import Prospector.Catalog.Text
import Prospector.Proofs.Json.Limits
import Prospector.Proofs.Json.Record

/-!
# Catalogs read from JSON texts

A JSON text that is within the limits of the reader is either a catalog or of another shape,
provided that none of its products is written as an array with more items than a product has
members. A catalog that was read lists every source that the text names.

## Main definitions

* `Catalog.NamesSource` : whether a text names a source.
* `Catalog.HasLongRow` : whether a product is written as an array that is too long.

## Main results

* `Catalog.ofText_ne_malformed` : a text within the limits is not taken for broken.
* `Catalog.exists_listing_of_namesSource` : every source that a text names is listed.
-/

namespace Prospector.Catalog

open Json Json.Tree

/-- Whether a text names a source in its list of sources. -/
def NamesSource (t : Tree) (name : String) : Prop :=
  ∃ members items source, t = .object members ∧ (some "sources", .array items) ∈ members ∧
    .object source ∈ items ∧ (some "name", .string (some name)) ∈ source

/-- Whether a product of a source is written as an array with more items than a product has members;
such a text is taken for broken, not for one of another shape. -/
def HasLongRow (t : Tree) : Prop :=
  ∃ members items source products row, t = .object members ∧
    (some "sources", .array items) ∈ members ∧ .object source ∈ items ∧
    (some "product_links", .array products) ∈ source ∧ .array row ∈ products ∧ 3 < row.length

/-! ## What is within the limits is not malformed -/

theorem passes_productShape {t : Tree} (h : ∀ row, t = .array row → row.length ≤ 3) :
    t.Passes productShape := by
  have htext : ∀ part : Tree, ∀ f ∈ [("link", true, Shape.text),
      ("type", false, Shape.nullable .text), ("text", false, Shape.nullable .text)],
        part.Passes f.2.2 := by
    intro part f hf
    simp only [List.mem_cons, List.not_mem_nil, or_false] at hf
    rcases hf with rfl | rfl | rfl <;> exact passes_of_refused rfl rfl part
  apply passes_record
  · exact fun _ items hitems => ⟨h items hitems, fun item _ => htext item⟩
  · exact fun _ _ m _ f hf _ => htext m.2 f hf

theorem passes_listingShape {t : Tree}
    (h : ∀ source products row, t = .object source →
      (some "product_links", .array products) ∈ source → .array row ∈ products →
        row.length ≤ 3) :
    t.Passes listingShape := by
  refine passes_record (fun hrow => nomatch hrow) ?_
  rintro source hsource ⟨key, value⟩ hm f hf hkey
  rcases List.mem_pair.1 hf with rfl | rfl
  · exact passes_of_refused rfl rfl value
  · refine passes_list fun products hproducts product hproduct => ?_
    refine passes_productShape fun row hrow => ?_
    apply h source products row hsource
    · rwa [← hproducts, ← show key = some "product_links" from hkey]
    · rwa [← hrow]

theorem passes_shape {t : Tree} (h : ¬HasLongRow t) : t.Passes shape := by
  refine passes_record (fun hrow => nomatch hrow) ?_
  rintro members hmembers ⟨key, value⟩ hm f hf hkey
  obtain rfl := List.mem_singleton.1 hf
  refine passes_list fun items hitems item hitem => ?_
  refine passes_listingShape fun source products row hsource hproducts hrow => ?_
  by_contra hlong
  refine h ⟨members, items, source, products, row, hmembers, ?_, ?_, hproducts, hrow,
    Nat.not_le.1 hlong⟩
  · rwa [← hitems, ← show key = some "sources" from hkey]
  · rwa [← hsource]

/-- A text within the limits is not taken for broken. -/
theorem ofText_ne_malformed {s : String} {t : Tree} (htokens : tokens s = t.tokens)
    (hfits : t.fits nestingLimit = true) (hrow : ¬HasLongRow t) :
    ofText s ≠ .error .malformed := by
  have hread := passes_shape hrow nestingLimit hfits
  unfold ofText
  rw [readAs_eq htokens]
  cases hresult : t.read nestingLimit shape with
  | error fault =>
      intro h
      exact hread (hresult.trans (congrArg Except.error (Except.error.inj h)))
  | ok j =>
      simp only
      split <;> exact nofun

/-! ## The parts of what was read -/

/-- A listing from an object: its name, its products and its other members. -/
theorem listing_of_ofJson? {source : List (String × Json)} {l : Listing}
    (h : Listing.ofJson? (.object source) = some l) :
    Json.member? "name" source = some (.string l.name) ∧
      (∃ items, optionalItems? (Json.member? "product_links" source) = some items ∧
        items.mapM Product.ofJson? = some l.products) ∧
      l.others = otherMembers ["name", "product_links"] source := by
  simp only [Listing.ofJson?, Option.bind_eq_bind, Option.bind_eq_some_iff] at h
  obtain ⟨name, ⟨v, hv, hname⟩, items, hitems, products, hproducts, hlisting⟩ := h
  obtain rfl := Option.some.inj hlisting
  refine ⟨?_, ⟨items, hitems, hproducts⟩, rfl⟩
  rw [hv, eq_string_of_string? hname]

/-- A catalog from an object: its listings and its other members. -/
theorem catalog_of_ofJson? {members : List (String × Json)} {c : Catalog}
    (h : ofJson? (.object members) = some c) :
    (∃ items, optionalItems? (Json.member? "sources" members) = some items ∧
        items.mapM Listing.ofJson? = some c.listings) ∧
      c.others = otherMembers ["sources"] members := by
  simp only [ofJson?, Option.bind_eq_bind, Option.bind_eq_some_iff] at h
  obtain ⟨items, hitems, listings, hlistings, hcatalog⟩ := h
  obtain rfl := Option.some.inj hcatalog
  exact ⟨⟨items, hitems, hlistings⟩, rfl⟩

/-- A list that may be missing is read part by part from the member that the text has for it. -/
theorem forall₂_of_optionalItems {α : Type} {part? : Json → Option α} {room : Nat}
    {fields : List (String × Bool × Shape)} {others : Shape}
    {members : List (Option String × Tree)} {done : List (String × Json)}
    (h : readMembers room members fields others [] = .ok done) {key : String} {items : List Json}
    (hitems : optionalItems? (Json.member? key done) = some items) {parts : List α}
    (hparts : items.mapM part? = some parts) {required : Bool} {shape : Shape}
    (hfield : fieldOf? key fields = some (required, .list shape)) :
    (last? key members = none ∧ parts = []) ∨
      ∃ inner trees, room = inner + 1 ∧ last? key members = some (.array trees) ∧
        List.Forall₂ (fun tree part => ∃ j, tree.read inner shape = .ok j ∧ part? j = some part)
          trees parts := by
  cases hlast : last? key members with
  | none =>
      have hnone : Json.member? key done = none := member?_of_last?_eq_none h hlast
      rw [hnone] at hitems
      obtain rfl := Option.some.inj hitems
      exact .inl ⟨rfl, (Option.some.inj hparts).symm⟩
  | some tree =>
      obtain ⟨v, hread, hfound⟩ := exists_of_last? h hlast
      rw [shapeOf, hfield] at hread
      obtain ⟨inner, trees, vs, hroom, rfl, rfl, hvs⟩ := exists_of_read_list hread
      rw [hfound] at hitems
      obtain rfl := Option.some.inj hitems
      exact .inr ⟨inner, trees, hroom, rfl,
        Text.forall₂_comp (forall₂_of_readItems hvs) (Text.mapM_eq_some_iff.1 hparts)⟩

/-! ## Sources -/

/-- Every source that a text names is listed in the catalog that is read. -/
theorem exists_listing_of_namesSource {s : String} {t : Tree} (htokens : tokens s = t.tokens)
    {c : Catalog} (h : ofText s = .ok c) {name : String} (hname : NamesSource t name) :
    ∃ l ∈ c.listings, l.name = name := by
  obtain ⟨members, items, source, rfl, hsources, hsource, hname⟩ := hname
  unfold ofText at h
  rw [readAs_eq htokens] at h
  cases hread : Tree.read nestingLimit (.object members) shape with
  | error fault =>
      rw [hread] at h
      cases h
  | ok j =>
      rw [hread] at h
      obtain ⟨done, hdone, hclosed⟩ := bind_eq_ok.1 hread
      obtain rfl := closed_eq_ok hclosed
      obtain ⟨v, hv, hfound⟩ := exists_of_readMembers hdone hsources rfl
      obtain ⟨listings, hlistings, hv⟩ := bind_eq_ok.1 hv
      obtain rfl := Except.ok.inj hv
      obtain ⟨w, hw, hlisting⟩ := Text.exists_of_forall₂ (forall₂_of_readItems hlistings) hsource
      obtain ⟨kept, hkept, hclosed⟩ := bind_eq_ok.1 hlisting
      obtain rfl := closed_eq_ok hclosed
      obtain ⟨n, hn, hfoundName⟩ := exists_of_readMembers hkept hname rfl
      obtain rfl := Except.ok.inj hn
      simp only at h
      split at h
      · next catalog hcatalog =>
        obtain rfl := Except.ok.inj h
        obtain ⟨⟨kept, hitems, hkept⟩, -⟩ := catalog_of_ofJson? hcatalog
        rw [hfound] at hitems
        obtain rfl := Option.some.inj hitems
        obtain ⟨l, hl, hread⟩ := Text.exists_mem_of_mapM hkept _ hw
        obtain ⟨hname, -⟩ := listing_of_ofJson? hread
        exact ⟨l, hl, (Json.string.inj (Option.some.inj (hfoundName.symm.trans hname))).symm⟩
      · cases h

end Prospector.Catalog
