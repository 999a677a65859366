import Prospector.Proofs.Catalog.Roundtrip
import Prospector.Proofs.Json.Place

/-!
# Members that survive an update

Saving the findings of a crawl reads a text, replaces the products of one listing and writes the
catalog again. A member of the text is found at the same place with the same value if it is kept at
every step: members of the catalog and of a listing are, known or not, and so are the known members
of the products that are not replaced. Any other member of a product is not even read, so it is lost
from every product of the file, whatever source the crawl was of.

## Main definitions

* `Catalog.Untouched` : the places of the members that are kept.
* `Catalog.Holding` : the places of what holds them.

## Main results

* `Catalog.at?_toJson_of_valueAt` : what was read is written at its place.
* `Catalog.at?_toJson_update` : an update leaves it there.
* `Catalog.keeps_members` : saving the findings of a crawl keeps members.
* `Catalog.not_keeps_members_price` : a price of a product is lost.
-/

namespace Prospector

open Json Json.Tree

/-! ## What is read of a member -/

/-- Texts are read like any other value. -/
theorem read_any_of_read_text {t : Tree} {room : Nat} {shape : Shape} {v : Json}
    (hshape : shape = .text ∨ shape = .nullable .text) (h : t.read room shape = .ok v) :
    t.read room .any = .ok v := by
  cases t with
  | null =>
      rcases hshape with rfl | rfl
      · cases h
      · exact h
  | bool b => rcases hshape with rfl | rfl <;> cases h
  | number l =>
      rw [Tree.read] at h
      rcases hshape with rfl | rfl <;> cases hl : l.value? <;> rw [hl] at h <;> cases h
  | string content =>
      cases content with
      | none => rcases hshape with rfl | rfl <;> cases h
      | some s => rcases hshape with rfl | rfl <;> exact h
  | array items => rcases hshape with rfl | rfl <;> cases room <;> cases h
  | object members => rcases hshape with rfl | rfl <;> cases room <;> cases h

section Records

variable {tree : Tree} {room : Nat} {fields : List (String × Bool × Shape)} {keepsOthers row : Bool}
  {j : Json} {key : String} {place : Pointer}

/-- What a text has under a key of a record stands in what is written, if the key is kept as it is
and written again. -/
theorem at?_of_valueAt_key (h : tree.read room (.record fields keepsOthers row) = .ok j)
    (hshape : shapeOf key fields (if keepsOthers then .any else .ignored) ∈
      [Shape.any, .text, .nullable .text])
    {written : Json} (hwritten : ∀ done, j = .object done → ∀ w, member? key done = some w →
      ∃ members, written = .object members ∧ member? key members = some w)
    {v : Json} (hv : tree.ValueAt (.key key :: place) v) :
    written.at? (.key key :: place) = some v := by
  obtain ⟨part, room', hpart, hv⟩ := hv
  obtain ⟨members, value, rfl, hvalue, hpart⟩ := at?_key hpart
  obtain ⟨-, items, harray⟩ | ⟨inner, members', done, -, hmembers, hj, hdone⟩ :=
    exists_of_read_record h
  · cases harray
  · obtain rfl := Tree.object.inj hmembers
    obtain ⟨w, hread, hfound⟩ := exists_of_last? hdone hvalue
    have hany : value.read inner .any = .ok w := by
      simp only [List.mem_cons, List.not_mem_nil, or_false] at hshape
      rcases hshape with hshape | hshape
      · rwa [hshape] at hread
      · exact read_any_of_read_text hshape hread
    obtain ⟨members', rfl, hmember⟩ := hwritten done hj w hfound
    rw [Json.at?, hmember, Option.bind_some]
    exact at?_of_valueAt hany ⟨part, room', hpart, hv⟩

/-- What a text has in an item of a list of a record stands in the item that was read. -/
theorem exists_of_at?_item {α : Type} {part? : Json → Option α} {done : List (String × Json)}
    (h : tree.read room (.record fields true false) = .ok (.object done)) {required : Bool}
    {shape : Shape} (hfield : fieldOf? key fields = some (required, .list shape)) {xs : List α}
    (hxs : ∃ items, optionalItems? (member? key done) = some items ∧ items.mapM part? = some xs)
    {i : Nat} {part : Tree} (hpart : tree.at? (.key key :: .item i :: place) = some part) :
    ∃ (item : Tree) (x : α) (inner : Nat) (j : Json), item.at? place = some part ∧
      xs[i]? = some x ∧ item.read inner shape = .ok j ∧ part? j = some x := by
  obtain ⟨members, value, rfl, hvalue, hpart⟩ := at?_key hpart
  obtain ⟨items, item, rfl, hitem, hpart⟩ := at?_item hpart
  obtain ⟨hrow, -⟩ | ⟨inner, members', done', -, hmembers, hdone', hdone⟩ :=
    exists_of_read_record h
  · cases hrow
  · obtain rfl := Tree.object.inj hmembers
    obtain rfl := Json.object.inj hdone'
    obtain ⟨js, hjs, hxs⟩ := hxs
    obtain ⟨hnone, -⟩ | ⟨inner', trees, -, hsome, hall⟩ :=
      Catalog.forall₂_of_optionalItems hdone hjs hxs hfield
    · rw [hnone] at hvalue
      cases hvalue
    · obtain rfl := Tree.array.inj (Option.some.inj (hvalue.symm.trans hsome))
      obtain ⟨x, hx, j, hread, hj⟩ := Text.exists_getElem?_of_forall₂ hall hitem
      exact ⟨item, x, inner', j, hpart, hx, hread, hj⟩

end Records

theorem member?_otherMembers {known : List String} {key : String}
    (h : known.contains key = false) (members : List (String × Json)) :
    member? key (otherMembers known members) = member? key members := by
  have hfilter := member?_filter (fun k => !known.contains k) key members
  rw [h] at hfilter
  exact hfilter

/-! ## What is written at a place -/

theorem Catalog.at?_toJson_sources (c : Catalog) (i : Nat) (place : Pointer) :
    c.toJson.at? (.key "sources" :: .item i :: place) =
      c.listings[i]?.bind fun l => l.toJson.at? place := by
  rw [Catalog.toJson, Json.at?, member?, if_pos rfl, Option.bind_some, Json.at?, List.getElem?_map,
    Option.bind_map]
  rfl

theorem Catalog.at?_toJson_other (c : Catalog) {key : String} (h : key ≠ "sources")
    (place : Pointer) : c.toJson.at? (.key key :: place) =
      (member? key c.others).bind fun v => v.at? place := by
  simp [Catalog.toJson, Json.at?, member?, Ne.symm h]

theorem Listing.at?_toJson_products (l : Listing) (j : Nat) (place : Pointer) :
    l.toJson.at? (.key "product_links" :: .item j :: place) =
      l.products[j]?.bind fun p => p.toJson.at? place := by
  rw [Listing.toJson, Json.at?, List.cons_append, member?, if_neg (by decide), List.cons_append,
    member?, if_pos rfl, Option.bind_some, Json.at?, List.getElem?_map, Option.bind_map]
  rfl

/-- The products of a listing do not matter to its other members. -/
theorem Listing.at?_toJson_other (l : Listing) {key : String} (h : key ≠ "product_links")
    (place : Pointer) : l.toJson.at? (.key key :: place) =
      (member? key (("name", .string l.name) :: l.others)).bind fun v => v.at? place := by
  rw [Listing.toJson, Json.at?, List.cons_append, List.cons_append, List.nil_append, member?,
    member?, member?, if_neg (Ne.symm h)]

/-! ## What is read is written at the same place -/

theorem ofOption_of_optionalText? {w : Json} {s : Option String}
    (h : optionalText? (some w) = some s) : ofOption (s.map .string) = w := by
  cases w with
  | null | string _ =>
      obtain rfl := Option.some.inj h
      rfl
  | bool _ | number _ | array _ | object _ => cases h

/-- A product has the members that it was read from, as far as they are known. -/
theorem Product.member?_toJson {done : List (String × Json)} {p : Product}
    (h : Product.ofJson? (.object done) = some p) {key : String}
    (hkey : key ∈ ["link", "type", "text"]) {w : Json} (hw : member? key done = some w) :
    ∃ members, p.toJson = .object members ∧ member? key members = some w := by
  simp only [Product.ofJson?, Product.ofParts?, Option.bind_eq_bind, Option.bind_eq_some_iff] at h
  obtain ⟨link, ⟨v, hv, hlink⟩, kind, hkind, text, htext, hp⟩ := h
  obtain rfl := Option.some.inj hp
  refine ⟨_, rfl, ?_⟩
  simp only [List.mem_cons, List.not_mem_nil, or_false] at hkey
  rcases hkey with rfl | rfl | rfl
  · obtain rfl := Option.some.inj (hv.symm.trans hw)
    cases v with
    | string s =>
        obtain rfl := Option.some.inj hlink
        rfl
    | null | bool _ | number _ | array _ | object _ => cases hlink
  · rw [hw] at hkind
    simp [member?, ofOption_of_optionalText? hkind]
  · rw [hw] at htext
    simp [member?, ofOption_of_optionalText? htext]

/-- A listing has the members that it was read from, its products apart. -/
theorem Listing.member?_toJson {done : List (String × Json)} {l : Listing}
    (h : Listing.ofJson? (.object done) = some l) {key : String} (hkey : key ≠ "product_links")
    {w : Json} (hw : member? key done = some w) :
    ∃ members, l.toJson = .object members ∧ member? key members = some w := by
  obtain ⟨hname, -, hothers⟩ := Catalog.listing_of_ofJson? h
  refine ⟨_, rfl, ?_⟩
  by_cases heq : key = "name"
  · subst heq
    exact hname.symm.trans hw
  · rw [List.cons_append, member?, if_neg (Ne.symm heq), List.cons_append, member?,
      if_neg (Ne.symm hkey), List.nil_append, hothers,
      member?_otherMembers (by simp [heq, hkey]), hw]

/-- A catalog has the members that it was read from, its listings apart. -/
theorem Catalog.member?_toJson {done : List (String × Json)} {c : Catalog}
    (h : Catalog.ofJson? (.object done) = some c) {key : String} (hkey : key ≠ "sources")
    {w : Json} (hw : member? key done = some w) :
    ∃ members, c.toJson = .object members ∧ member? key members = some w := by
  obtain ⟨-, hothers⟩ := Catalog.catalog_of_ofJson? h
  refine ⟨_, rfl, ?_⟩
  rw [member?, if_neg (Ne.symm hkey), hothers, member?_otherMembers (by simp [hkey]), hw]

namespace Catalog

/-! ## Places that an update leaves alone -/

/-- Places of members that an update leaves alone if it replaces the products of the listing at a
position: inside the members of the catalog other than its listings, inside those of a listing other
than its products, and inside the known members of a product of another listing. -/
inductive Untouched (replaced : Option Nat) : Pointer → Prop
  | member {key : String} {place : Pointer} : key ≠ "sources" →
      Untouched replaced (.key key :: place)
  | listing {i : Nat} {key : String} {place : Pointer} : key ≠ "product_links" →
      Untouched replaced (.key "sources" :: .item i :: .key key :: place)
  | product {i k : Nat} {key : String} {place : Pointer} : replaced ≠ some i →
      key ∈ ["link", "type", "text"] → Untouched replaced
        (.key "sources" :: .item i :: .key "product_links" :: .item k :: .key key :: place)

/-- Places of what holds such members: the list of listings, a listing, its list of products, and a
product of another listing. -/
inductive Holding (replaced : Option Nat) : Pointer → Prop
  | listings : Holding replaced [.key "sources"]
  | listing (i : Nat) : Holding replaced [.key "sources", .item i]
  | products (i : Nat) : Holding replaced [.key "sources", .item i, .key "product_links"]
  | product {i : Nat} (k : Nat) : replaced ≠ some i →
      Holding replaced [.key "sources", .item i, .key "product_links", .item k]

variable {t : Tree} {room : Nat} {j : Json} {c : Catalog} {replaced : Option Nat} {place : Pointer}

/-- What a text has in a listing was read for a listing. -/
theorem exists_listing_of_at? (h : t.read room shape = .ok j) (hc : ofJson? j = some c) {i : Nat}
    {part : Tree} (hpart : t.at? (.key "sources" :: .item i :: place) = some part) :
    ∃ (item : Tree) (l : Listing) (inner : Nat) (j : Json), item.at? place = some part ∧
      c.listings[i]? = some l ∧ item.read inner listingShape = .ok j ∧
        Listing.ofJson? j = some l := by
  obtain ⟨hrow, -⟩ | ⟨inner, members, done, -, rfl, rfl, -⟩ := exists_of_read_record h
  · cases hrow
  · exact exists_of_at?_item h rfl (catalog_of_ofJson? hc).1 hpart

/-- What a text has in a product was read for a product. -/
theorem exists_product_of_at? {l : Listing} (h : t.read room listingShape = .ok j)
    (hl : Listing.ofJson? j = some l) {k : Nat} {part : Tree}
    (hpart : t.at? (.key "product_links" :: .item k :: place) = some part) :
    ∃ (item : Tree) (p : Product) (inner : Nat) (j : Json), item.at? place = some part ∧
      l.products[k]? = some p ∧ item.read inner productShape = .ok j ∧
        Product.ofJson? j = some p := by
  obtain ⟨hrow, -⟩ | ⟨inner, members, done, -, rfl, rfl, -⟩ := exists_of_read_record h
  · cases hrow
  · exact exists_of_at?_item h rfl (listing_of_ofJson? hl).2.1 hpart

/-- What was read is written at its place. -/
theorem at?_toJson_of_valueAt (h : t.read room shape = .ok j) (hc : ofJson? j = some c)
    (hplace : Untouched replaced place) {v : Json} (hv : t.ValueAt place v) :
    c.toJson.at? place = some v := by
  cases hplace with
  | @member key place hkey =>
      refine at?_of_valueAt_key h ?_ (fun done hj w hw => ?_) hv
      · simp [shapeOf, fieldOf?, Ne.symm hkey]
      · exact member?_toJson (hj ▸ hc) hkey hw
  | @listing i key place hkey =>
      obtain ⟨part, room', hpart, hv⟩ := hv
      obtain ⟨item, l, inner, jl, hat, hl, hread, hjl⟩ := exists_listing_of_at? h hc hpart
      rw [at?_toJson_sources, hl, Option.bind_some]
      refine at?_of_valueAt_key hread ?_ (fun done hj w hw => ?_) ⟨part, room', hat, hv⟩
      · by_cases hname : key = "name"
        · simp [shapeOf, fieldOf?, hname]
        · simp [shapeOf, fieldOf?, Ne.symm hkey, Ne.symm hname]
      · exact Listing.member?_toJson (hj ▸ hjl) hkey hw
  | @product i k key place hother hkey =>
      obtain ⟨part, room', hpart, hv⟩ := hv
      obtain ⟨item, l, inner, jl, hat, hl, hread, hjl⟩ := exists_listing_of_at? h hc hpart
      obtain ⟨item', p, inner', jp, hat', hp, hread', hjp⟩ := exists_product_of_at? hread hjl hat
      rw [at?_toJson_sources, hl, Option.bind_some, Listing.at?_toJson_products, hp,
        Option.bind_some]
      refine at?_of_valueAt_key hread' ?_ (fun done hj w hw => ?_) ⟨part, room', hat', hv⟩
      · simp only [List.mem_cons, List.not_mem_nil, or_false] at hkey
        rcases hkey with rfl | rfl | rfl <;> simp [shapeOf, fieldOf?]
      · exact Product.member?_toJson (hj ▸ hjp) hkey hw

/-- What holds members is written at its place. -/
theorem isSome_at?_toJson (h : t.read room shape = .ok j) (hc : ofJson? j = some c)
    (hplace : Holding replaced place) (hat : (t.at? place).isSome = true) :
    (c.toJson.at? place).isSome = true := by
  obtain ⟨part, hpart⟩ := Option.isSome_iff_exists.1 hat
  cases hplace with
  | listings => rfl
  | listing i =>
      obtain ⟨item, l, inner, jl, -, hl, -, -⟩ := exists_listing_of_at? h hc hpart
      rw [at?_toJson_sources, hl]
      rfl
  | products i =>
      obtain ⟨item, l, inner, jl, -, hl, -, -⟩ := exists_listing_of_at? h hc hpart
      rw [at?_toJson_sources, hl]
      rfl
  | @product i k hother =>
      obtain ⟨item, l, inner, jl, hat', hl, hread, hjl⟩ := exists_listing_of_at? h hc hpart
      obtain ⟨item', p, inner', jp, -, hp, -, -⟩ := exists_product_of_at? hread hjl hat'
      rw [at?_toJson_sources, hl, Option.bind_some, Listing.at?_toJson_products, hp]
      rfl

section Update

variable (new : Listing)

/-- An update leaves the members of every listing, its products apart, where they are. -/
theorem exists_getElem?_update {i : Nat} {l : Listing} (h : c.listings[i]? = some l) :
    ∃ kept, (c.update new).listings[i]? = some kept ∧
      (∀ key place, key ≠ "product_links" →
        kept.toJson.at? (.key key :: place) = l.toJson.at? (.key key :: place)) ∧
      ((c.listings.findIdx? fun l => l.name == new.name) ≠ some i → kept = l) := by
  refine ⟨_, getElem?_updateListings new h, fun key place hkey => ?_, fun hother => if_neg hother⟩
  rw [Listing.at?_toJson_other _ hkey, Listing.at?_toJson_other _ hkey]
  split <;> rfl

theorem at?_toJson_update
    (hplace : Untouched (c.listings.findIdx? fun l => l.name == new.name) place) {v : Json}
    (h : c.toJson.at? place = some v) : (c.update new).toJson.at? place = some v := by
  cases hplace with
  | member hkey => rwa [at?_toJson_other _ hkey] at h ⊢
  | @listing i key place hkey =>
      rw [at?_toJson_sources] at h ⊢
      obtain ⟨l, hl, h⟩ := Option.bind_eq_some_iff.1 h
      obtain ⟨kept, hkept, hmembers, -⟩ := exists_getElem?_update new hl
      rw [hkept, Option.bind_some, hmembers key place hkey, h]
  | @product i k key place hother hkey =>
      rw [at?_toJson_sources] at h ⊢
      obtain ⟨l, hl, h⟩ := Option.bind_eq_some_iff.1 h
      obtain ⟨kept, hkept, -, hsame⟩ := exists_getElem?_update new hl
      rw [hkept, Option.bind_some, hsame hother, h]

theorem isSome_at?_toJson_update
    (hplace : Holding (c.listings.findIdx? fun l => l.name == new.name) place)
    (h : (c.toJson.at? place).isSome = true) :
    ((c.update new).toJson.at? place).isSome = true := by
  obtain ⟨v, hv⟩ := Option.isSome_iff_exists.1 h
  cases hplace with
  | listings => rfl
  | listing i =>
      rw [at?_toJson_sources] at hv ⊢
      obtain ⟨l, hl, -⟩ := Option.bind_eq_some_iff.1 hv
      obtain ⟨kept, hkept, -⟩ := exists_getElem?_update new hl
      rw [hkept]
      rfl
  | products i =>
      rw [at?_toJson_sources] at hv ⊢
      obtain ⟨l, hl, -⟩ := Option.bind_eq_some_iff.1 hv
      obtain ⟨kept, hkept, -⟩ := exists_getElem?_update new hl
      rw [hkept]
      rfl
  | @product i k hother =>
      rw [at?_toJson_sources] at hv ⊢
      obtain ⟨l, hl, hv⟩ := Option.bind_eq_some_iff.1 hv
      obtain ⟨kept, hkept, -, hsame⟩ := exists_getElem?_update new hl
      rw [hkept, Option.bind_some, hsame hother, hv]
      rfl

end Update

/-! ## The text of a catalog -/

theorem keysOnce_ofOption (s : Option String) : (Json.ofOption (s.map .string)).KeysOnce := by
  cases s with
  | none => exact .null
  | some s => exact .string s

theorem keysOnce_toJson_product (p : Product) : p.toJson.KeysOnce := by
  refine .object (by simp) ?_
  simp only [List.forall_mem_cons, List.not_mem_nil, false_implies, implies_true, and_true]
  exact ⟨.string p.link, keysOnce_ofOption p.kind, keysOnce_ofOption p.text⟩

/-- Known members and those that are kept beside them have different keys. -/
theorem keysOnce_of_kept {known : List String} {others : List (String × Json)}
    (h : Kept known room others) (members : List (String × Json))
    (honce : members.Pairwise fun m n => m.1 ≠ n.1)
    (hknown : ∀ m ∈ members, known.contains m.1 = true) (hvalues : ∀ m ∈ members, m.2.KeysOnce) :
    (Json.object (members ++ others)).KeysOnce := by
  refine .object (List.pairwise_append.2 ⟨honce, h.sorted.pairwise_ne, fun m hm n hn heq => ?_⟩)
    (List.forall_mem_append.2 ⟨hvalues, fun m hm => (h.values m hm).keysOnce⟩)
  have hcontains := hknown m hm
  rw [heq, h.unknown n hn] at hcontains
  cases hcontains

theorem Sound.keysOnce_toJson (h : c.Sound) : c.toJson.KeysOnce := by
  have hlisting : ∀ l ∈ c.listings, l.toJson.KeysOnce := by
    intro l hl
    refine keysOnce_of_kept (h.listings l hl) [_, _] (by simp) (by simp) ?_
    simp only [List.forall_mem_cons, List.not_mem_nil, false_implies, implies_true, and_true]
    refine ⟨.string l.name, .array fun v hv => ?_⟩
    obtain ⟨p, -, rfl⟩ := List.mem_map.1 hv
    exact keysOnce_toJson_product p
  refine keysOnce_of_kept h.others [_] (List.pairwise_singleton _ _) (by simp) ?_
  refine List.forall_mem_singleton.2 (.array fun v hv => ?_)
  obtain ⟨l, hl, rfl⟩ := List.mem_map.1 hv
  exact hlisting l hl

/-! ## Saving the findings of a crawl -/

variable {files : FileTree} {path : String}

/-- The findings of a crawl are saved as the catalog that was read with the products of the
crawl. -/
theorem readText_saveFindings {old : String} (hold : files.readText path = .ok old)
    (hcatalog : ofText old = .ok c) {name : String} {fs : Findings} {count : Nat}
    (hsave : (saveFindings files path name fs).1 = .ok count) :
    (saveFindings files path name fs).2.readText path =
      .ok (c.update (.ofFindings name fs)).text := by
  have hload := load_of_ofText hold hcatalog
  obtain ⟨fault, hfault, -⟩ | ⟨loaded, hloaded, htree, hresult⟩ :=
    saveFindings_cases files path name fs
  · rw [hload] at hfault
    cases hfault
  · obtain rfl := Except.ok.inj (hload.symm.trans hloaded)
    have hsaved : (save files path (c.update (.ofFindings name fs))).1 = .ok () := by
      cases hcase : (save files path (c.update (.ofFindings name fs))).1 with
      | ok => rfl
      | error fault =>
          rw [hresult, hcase] at hsave
          cases hsave
    rw [htree]
    exact FileTree.readText_of_read (read_save_of_ok hsaved)

/-- Saving the findings of a crawl keeps every member of a text that is read as a catalog, if its
value is free of floating-point numbers, apart from the products that it replaces and from members
of a product that are not known. -/
theorem keeps_members {old : String} (hold : files.readText path = .ok old)
    (hcatalog : ofText old = .ok c) {name : String} {fs : Findings} {count : Nat}
    (hsave : (saveFindings files path name fs).1 = .ok count) :
    (∃ before : Tree, tokens old = before.tokens) ∧
      ∃ (new : String) (after : Tree),
        (saveFindings files path name fs).2.readText path = .ok new ∧ tokens new = after.tokens ∧
          ∀ before : Tree, tokens old = before.tokens →
            (∀ place v, Untouched (c.listings.findIdx? fun l => l.name == name) place → v.IsExact →
              before.ValueAt place v → after.ValueAt place v) ∧
            (∀ place, Holding (c.listings.findIdx? fun l => l.name == name) place →
              (before.at? place).isSome = true → (after.at? place).isSome = true) := by
  obtain ⟨j, hj, hc⟩ := exists_of_ofText hcatalog
  have hsound := sound_of_ofText hcatalog
  have hupdated := hsound.update name fs
  refine ⟨exists_tree_of_readAs hj, (c.update (.ofFindings name fs)).text,
    Tree.ofJson (c.update (.ofFindings name fs)).toJson,
    readText_saveFindings hold hcatalog hsave, tokens_text _, ?_⟩
  intro before htokens
  rw [readAs_eq htokens] at hj
  constructor
  · intro place v hplace hexact hv
    have hat := at?_toJson_of_valueAt hj hc hplace hv
    obtain ⟨part, room, -, hpart⟩ := hv
    exact valueAt_ofJson hupdated.keysOnce_toJson (at?_toJson_update _ hplace hat)
      (readable_of_read part hpart) hexact
  · intro place hplace hat
    rw [at?_ofJson hupdated.keysOnce_toJson, Option.isSome_map]
    exact isSome_at?_toJson_update _ hplace (isSome_at?_toJson hj hc hplace hat)

/-- A note of a source and the link of one of its products survive a crawl of another source. -/
theorem keeps_members_annotated :
    (resultsFile annotated).readText "r.json" = .ok annotated ∧
    ofText annotated = .ok annotatedCatalog ∧
    (saveFindings (resultsFile annotated) "r.json" "new" teaFindings).1 = .ok 1 ∧
    ∃ (new : String) (after : Tree),
      (saveFindings (resultsFile annotated) "r.json" "new" teaFindings).2.readText "r.json" =
        .ok new ∧ tokens new = after.tokens ∧
      after.ValueAt [.key "sources", .item 0, .key "note", .key "b", .item 1]
        (.number (.int (-2))) ∧
      after.ValueAt [.key "sources", .item 0, .key "product_links", .item 0, .key "link"]
        (.string "http://s.test/ink") := by
  have hsave : (saveFindings (resultsFile annotated) "r.json" "new" teaFindings).1 = .ok 1 := by
    decide +kernel
  obtain ⟨-, new, after, hnew, hafter, hkept⟩ :=
    keeps_members readText_annotated ofText_annotated hsave
  refine ⟨readText_annotated, ofText_annotated, hsave, new, after, hnew, hafter, ?_, ?_⟩
  · exact (hkept annotatedTree tokens_annotated).1 _ _ (.listing (by decide)) (.int _)
      ⟨_, 0, rfl, rfl⟩
  · exact (hkept annotatedTree tokens_annotated).1 _ _ (.product (by decide) (by decide))
      (.string _) ⟨_, 0, rfl, rfl⟩

/-- A text with a product that has a member beside the known ones. -/
def priced : String :=
  "\x7b\"sources\":[\x7b\"name\":\"old\",\"product_links\":[\x7b\"link\":\"http://o.test/p\"," ++
    "\"price\":3\x7d]\x7d]\x7d"

/-- That text as it is written. -/
def pricedTree : Tree :=
  .object [(some "sources", .array [.object [(some "name", .string (some "old")),
    (some "product_links", .array [.object [(some "link", .string (some "http://o.test/p")),
      (some "price", .number { whole := ['3'] })]])]])]

/-- The price of a product of another source is lost. -/
theorem not_keeps_members_price :
    (resultsFile priced).readText "r.json" = .ok priced ∧ tokens priced = pricedTree.tokens ∧
    pricedTree.ValueAt [.key "sources", .item 0, .key "product_links", .item 0, .key "price"]
      (.number (.int 3)) ∧
    (saveFindings (resultsFile priced) "r.json" "new" {}).1 = .ok 0 ∧
    ∃ (new : String) (after : Tree),
      (saveFindings (resultsFile priced) "r.json" "new" {}).2.readText "r.json" = .ok new ∧
      tokens new = after.tokens ∧
      after.at? [.key "sources", .item 0, .key "product_links", .item 0, .key "price"] = none := by
  have hfile : (resultsFile priced).readText "r.json" = .ok priced := by decide +kernel
  have htokens : tokens priced = pricedTree.tokens := by decide +kernel
  have hcatalog : ofText priced =
      .ok { listings := [{ name := "old", products := [{ link := "http://o.test/p" }] }] } := by
    rw [ofText, readAs_eq htokens]
    rfl
  have hsave : (saveFindings (resultsFile priced) "r.json" "new" {}).1 = .ok 0 := by
    decide +kernel
  exact ⟨hfile, htokens, ⟨_, 0, rfl, rfl⟩, hsave, _, _, readText_saveFindings hfile hcatalog hsave,
    tokens_text _, rfl⟩

end Catalog

end Prospector
