import Prospector.Proofs.Catalog.Store
import Prospector.Proofs.Catalog.Update
import Prospector.Proofs.Json.Syntax
import Prospector.Proofs.Json.Value

/-!
# Saved catalogs come back

The text of a catalog writes the catalog. Its known members stand first and the others behind them;
the reader puts all of them in order, finds the known ones again because no other member has their
keys, and what is left are the others as they stood. That the others can be read where they
stand is an invariant of the catalogs that programs see: it holds of the empty catalog and of one
that was read, since the reader has put its members in order and has read them within its limits,
and an update brings no other members. Only their floating-point numbers may not come back as they
were.

## Main definitions

* `Kept` : whether members may be kept beside the known ones.
* `Catalog.Sound` : whether the members that a catalog keeps can be read where they stand.
* `Catalog.IsExact` : whether no number that a catalog keeps is a floating-point number.
* `Catalog.Reachable` : how a catalog comes about.

## Main results

* `Catalog.ofText_text` : the text of a catalog writes the catalog.
* `Catalog.sound_of_ofText`, `Catalog.Reachable.sound` : what a catalog keeps can be read.
* `Catalog.save_again` : a catalog that is saved can be saved again.
* `Catalog.load_save` : a catalog that is saved and loaded is the same, and so is its file when it
  is saved once more.
-/

namespace Prospector

open Json Json.Tree

/-! ## Members that are kept -/

/-- Whether members may be kept beside the known ones where there is room for so many arrays and
objects inside one another: they stand in order, none has a known key, and their values can be
read. -/
structure Kept (known : List String) (room : Nat) (others : List (String × Json)) : Prop where
  sorted : SortedKeys others
  unknown : ∀ m ∈ others, known.contains m.1 = false
  values : ∀ m ∈ others, m.2.Readable room

namespace Kept

variable {known : List String} {room : Nat} {others : List (String × Json)}

theorem nil : Kept known room [] :=
  ⟨sortedKeys_nil, fun _ hm => absurd hm List.not_mem_nil, fun _ hm => absurd hm List.not_mem_nil⟩

/-- What is found under a known key is found among the known members. -/
theorem member?_insertMembers (h : Kept known room others) (key : String)
    (hkey : known.contains key = true) (members : List (String × Json)) :
    member? key (insertMembers others members) = member? key members := by
  have hnone : member? key others = none := by
    apply member?_eq_none
    rintro m hm rfl
    rw [h.unknown m hm] at hkey
    cases hkey
  rw [Json.member?_insertMembers h.sorted, hnone, Option.none_or]

/-- The other members are found as they stood. -/
theorem otherMembers_insertMembers (h : Kept known room others) (members : List (String × Json))
    (hsorted : SortedKeys members) (hmembers : ∀ m ∈ members, known.contains m.1 = true) :
    otherMembers known (insertMembers others members) = others := by
  refine filter_insertMembers h.sorted hsorted (fun key => !known.contains key) ?_ ?_
  · intro m hm
    simp only [h.unknown m hm, Bool.not_false]
  · intro m hm
    simp only [hmembers m hm, Bool.not_true]

end Kept


/-! ## What is written is read -/

/-- Items that are written one by one are read one by one. -/
theorem exists_readItems {α : Type} (toJson : α → Json) {ofJson? : Json → Option α} {room : Nat}
    {shape : Shape} (xs : List α) (h : ∀ x ∈ xs, ∃ j,
      (Tree.ofJson (toJson x)).read (room + 1) shape = .ok j ∧ ofJson? j = some x) :
    ∃ js, (Tree.ofJson (.array (xs.map toJson))).read (room + 2) (.list shape) = .ok (.array js) ∧
      js.mapM ofJson? = some xs := by
  have hitems : ∃ js, readItems (room + 1) (Tree.ofItems (xs.map toJson)) shape = .ok js ∧
      js.mapM ofJson? = some xs := by
    induction xs with
    | nil => exact ⟨[], rfl, rfl⟩
    | cons x xs ih =>
        obtain ⟨⟨j, hread, hj⟩, hxs⟩ := List.forall_mem_cons.1 h
        obtain ⟨js, hreads, hjs⟩ := ih hxs
        refine ⟨j :: js, ?_, by simp [hj, hjs]⟩
        rw [List.map_cons, Tree.ofItems, readItems, hread, hreads]
        rfl
  obtain ⟨js, hread, hjs⟩ := hitems
  refine ⟨js, ?_, hjs⟩
  simp only [Tree.ofJson, Tree.read, Shape.arrayForm, hread]
  rfl

/-- A record is read with its known members first and the others put among them. -/
theorem Kept.read_record (fields : List (String × Bool × Shape)) {room : Nat}
    {others : List (String × Json)} (h : Kept (fields.map (·.1)) room others)
    (hexact : ∀ m ∈ others, m.2.IsExact) (written : List (Option String × Tree))
    {members : List (String × Json)}
    (hwritten : readMembers room (written ++ Tree.ofMembers others) fields .any [] =
      readMembers room (Tree.ofMembers others) fields .any members)
    (hcomplete : complete fields members = true) :
    (Tree.object (written ++ Tree.ofMembers others)).read (room + 1) (.record fields true false) =
      .ok (.object (insertMembers others members)) := by
  have hothers : readMembers room (Tree.ofMembers others) fields .any members =
      .ok (insertMembers others members) := by
    apply readMembers_ofMembers
    · exact fun m hm => fieldOf?_eq_none (h.unknown m hm)
    · exact fun m hm => read_ofJson (h.values m hm) (hexact m hm)
  have hall : complete fields (insertMembers others members) = true := by
    rw [complete, List.all_eq_true] at hcomplete ⊢
    intro f hf
    have hknown : (fields.map (·.1)).contains f.1 = true :=
      List.contains_iff_mem.2 (List.mem_map_of_mem hf)
    rw [h.member?_insertMembers f.1 hknown]
    exact hcomplete f hf
  show (readMembers room _ fields .any [] >>= closed fields) = _
  rw [hwritten, hothers]
  exact if_pos hall

theorem Product.exists_read (p : Product) (room : Nat) :
    ∃ j, (Tree.ofJson p.toJson).read (room + 1) Catalog.productShape = .ok j ∧
      Product.ofJson? j = some p := by
  obtain ⟨link, kind, text⟩ := p
  cases kind <;> cases text <;> exact ⟨_, rfl, rfl⟩

/-- What is read of a written listing is the listing. -/
theorem Listing.exists_read {l : Listing} {room : Nat}
    (h : Kept ["name", "product_links"] (room + 2) l.others)
    (hexact : ∀ m ∈ l.others, m.2.IsExact) :
    ∃ j, (Tree.ofJson l.toJson).read (room + 3) Catalog.listingShape = .ok j ∧
      Listing.ofJson? j = some l := by
  obtain ⟨js, hproducts, hjs⟩ := exists_readItems Product.toJson l.products
    fun p _ => p.exists_read room
  let members := [("name", Json.string l.name), ("product_links", Json.array js)]
  have hsorted : SortedKeys members :=
    List.pairwise_pair.2 (show "name" < "product_links" by decide)
  have hname := h.member?_insertMembers "name" rfl members
  have hlinks := h.member?_insertMembers "product_links" rfl members
  have hothers := h.otherMembers_insertMembers members hsorted (by simp [members])
  refine ⟨.object (insertMembers l.others members), ?_, ?_⟩
  · refine Kept.read_record [("name", true, .text),
      ("product_links", false, .list Catalog.productShape)] h hexact
      [(some "name", .string (some l.name)),
        (some "product_links", Tree.ofJson (.array (l.products.map Product.toJson)))] ?_ rfl
    rw [List.cons_append, readMembers_known (f := (true, .text)) rfl rfl rfl, List.cons_append,
      readMembers_known (f := (false, .list Catalog.productShape)) rfl rfl hproducts]
    rfl
  · simp only [Listing.ofJson?, hname, hlinks, hothers]
    simp [members, member?, Json.string?, optionalItems?, Json.array?, hjs]

namespace Catalog

/-- Whether no number of a member that is kept is a floating-point number. -/
structure IsExact (c : Catalog) : Prop where
  others : ∀ m ∈ c.others, m.2.IsExact
  listings : ∀ l ∈ c.listings, ∀ m ∈ l.others, m.2.IsExact

/-- What is read of a written catalog is the catalog. -/
theorem exists_read {c : Catalog} (room : Nat) (h : Kept ["sources"] (room + 4) c.others)
    (hlistings : ∀ l ∈ c.listings, Kept ["name", "product_links"] (room + 2) l.others)
    (hexact : c.IsExact) :
    ∃ j, (Tree.ofJson c.toJson).read (room + 5) shape = .ok j ∧ ofJson? j = some c := by
  obtain ⟨js, hsources, hjs⟩ := exists_readItems Listing.toJson c.listings
    fun l hl => Listing.exists_read (hlistings l hl) (hexact.listings l hl)
  let members := [("sources", Json.array js)]
  have hfound := h.member?_insertMembers "sources" rfl members
  have hothers := h.otherMembers_insertMembers members (List.pairwise_singleton _ _)
    (by simp [members])
  refine ⟨.object (insertMembers c.others members), ?_, ?_⟩
  · refine Kept.read_record [("sources", false, .list listingShape)] h hexact.others
      [(some "sources", Tree.ofJson (.array (c.listings.map Listing.toJson)))] ?_ rfl
    rw [List.cons_append,
      readMembers_known (f := (false, .list listingShape)) rfl rfl hsources]
    rfl
  · simp only [ofJson?, hfound, hothers]
    simp [members, member?, optionalItems?, Json.array?, hjs]

/-- Whether the members that are kept can be read where they stand. -/
structure Sound (c : Catalog) : Prop where
  others : Kept ["sources"] 126 c.others
  listings : ∀ l ∈ c.listings, Kept ["name", "product_links"] 124 l.others

/-- The text of a catalog is the one that its value names. -/
theorem tokens_text (c : Catalog) : tokens c.text = (Tree.ofJson c.toJson).tokens :=
  tokens_indented c.toJson

/-- The text of a catalog writes the catalog. -/
theorem ofText_text {c : Catalog} (h : c.Sound) (hexact : c.IsExact) : ofText c.text = .ok c := by
  obtain ⟨j, hread, hj⟩ := exists_read 122 h.others h.listings hexact
  rw [ofText, readAs_eq (tokens_text c), nestingLimit, hread]
  simp only [hj]

/-! ## Catalogs that were read -/

/-- The other members that were read may be kept. -/
theorem kept_otherMembers {fields : List (String × Bool × Shape)} {room : Nat}
    {members : List (Option String × Tree)} {done : List (String × Json)}
    (h : readMembers room members fields .any [] = .ok done) :
    Kept (fields.map (·.1)) room (otherMembers (fields.map (·.1)) done) := by
  have hunknown : ∀ m ∈ otherMembers (fields.map (·.1)) done,
      m ∈ done ∧ (fields.map (·.1)).contains m.1 = false := by
    intro m hm
    obtain ⟨hm, hkey⟩ := List.mem_filter.1 hm
    exact ⟨hm, by simpa using hkey⟩
  refine ⟨(sortedKeys_readMembers h sortedKeys_nil).filter _, fun m hm => (hunknown m hm).2, ?_⟩
  intro m hm
  obtain ⟨hdone, hkey⟩ := hunknown m hm
  obtain hnil | ⟨value, -, hread⟩ := exists_of_mem_readMembers h hdone
  · exact absurd hnil List.not_mem_nil
  · rw [shapeOf, fieldOf?_eq_none hkey] at hread
    exact readable_of_read value hread

theorem kept_of_read_listing {t : Tree} {room : Nat} {j : Json} {l : Listing}
    (h : t.read (room + 1) listingShape = .ok j) (hl : Listing.ofJson? j = some l) :
    Kept ["name", "product_links"] room l.others := by
  obtain ⟨hrow, -⟩ | ⟨inner, members, done, hroom, -, rfl, hdone⟩ := exists_of_read_record h
  · cases hrow
  · obtain rfl : room = inner := Nat.succ.inj hroom
    obtain ⟨-, -, hothers⟩ := listing_of_ofJson? hl
    rw [hothers]
    exact kept_otherMembers hdone

theorem exists_of_ofText {s : String} {c : Catalog} (h : ofText s = .ok c) :
    ∃ j, readAs shape s = .ok j ∧ ofJson? j = some c := by
  unfold ofText at h
  split at h
  · cases h
  · next j hj =>
    split at h
    · next catalog hcatalog =>
      obtain rfl := Except.ok.inj h
      exact ⟨j, hj, hcatalog⟩
    · cases h

theorem sound_of_ofText {s : String} {c : Catalog} (h : ofText s = .ok c) : c.Sound := by
  obtain ⟨j, hj, hcatalog⟩ := exists_of_ofText h
  obtain ⟨t, htokens⟩ := exists_tree_of_readAs hj
  rw [readAs_eq htokens] at hj
  obtain ⟨hrow, -⟩ | ⟨inner, members, done, hroom, rfl, rfl, hdone⟩ := exists_of_read_record hj
  · cases hrow
  · obtain rfl : inner = 126 := (Nat.succ.inj hroom).symm
    obtain ⟨⟨items, hitems, hlistings⟩, hothers⟩ := catalog_of_ofJson? hcatalog
    refine ⟨?_, fun l hl => ?_⟩
    · rw [hothers]
      exact kept_otherMembers hdone
    · obtain ⟨-, hnil⟩ | ⟨room, trees, hroom, -, htrees⟩ :=
        forall₂_of_optionalItems hdone hitems hlistings rfl
      · rw [hnil] at hl
        exact absurd hl List.not_mem_nil
      · obtain rfl : room = 125 := (Nat.succ.inj hroom).symm
        obtain ⟨item, -, j, hread, hj⟩ := Text.exists_of_forall₂ htrees.flip hl
        exact kept_of_read_listing hread hj

/-! ## Updates -/

theorem Sound.update {c : Catalog} (h : c.Sound) (name : String) (fs : Findings) :
    (c.update (.ofFindings name fs)).Sound := by
  refine ⟨h.others, fun l hl => ?_⟩
  rcases of_mem_updateListings hl with rfl | ⟨old, hold, hothers⟩
  · exact Kept.nil
  · rw [hothers]
    exact h.listings old hold

theorem IsExact.update {c : Catalog} (h : c.IsExact) (name : String) (fs : Findings) :
    (c.update (.ofFindings name fs)).IsExact := by
  refine ⟨h.others, fun l hl => ?_⟩
  rcases of_mem_updateListings hl with rfl | ⟨old, hold, hothers⟩
  · exact fun m hm => absurd hm List.not_mem_nil
  · rw [hothers]
    exact h.listings old hold

/-! ## Catalogs that come about -/

/-- How a catalog comes about: it is empty, it is loaded from a file, or it is updated with the
products of a crawl. -/
inductive Reachable : Catalog → Prop
  | empty : Reachable {}
  | loaded {t : FileTree} {path : String} {c : Catalog} : load t path = .ok c → Reachable c
  | updated {c : Catalog} (name : String) (fs : Findings) :
      Reachable c → Reachable (c.update (.ofFindings name fs))

theorem sound_empty : Sound {} :=
  ⟨Kept.nil, fun _ hl => absurd hl List.not_mem_nil⟩

theorem sound_of_load {t : FileTree} {path : String} {c : Catalog} (h : load t path = .ok c) :
    c.Sound := by
  unfold load at h
  split at h
  · split at h
    · cases h
    · split at h
      · next catalog htext =>
        obtain rfl := Except.ok.inj h
        exact sound_of_ofText htext
      · obtain rfl := Except.ok.inj h
        exact sound_empty
      · cases h
  · obtain rfl := Except.ok.inj h
    exact sound_empty

/-- What a catalog keeps can be read, however it came about. -/
theorem Reachable.sound {c : Catalog} (h : c.Reachable) : c.Sound := by
  induction h with
  | empty => exact sound_empty
  | loaded hload => exact sound_of_load hload
  | updated name fs _ ih => exact ih.update name fs

/-! ## Saving and loading -/

variable {t : FileTree} {path : String} {c : Catalog}

open FileTree

theorem load_of_ofText {s : String} (h : t.readText path = .ok s) (htext : ofText s = .ok c) :
    load t path = .ok c := by
  obtain ⟨content, hread⟩ := exists_read_of_readText h
  rw [load, if_pos (holds_of_read hread), h]
  simp only [htext]

/-- What saving needs to succeed: the directories can be made, the draft can be written and moved to
the place of the file. -/
theorem exists_of_save_eq_ok (h : (save t path c).1 = .ok ()) :
    ∃ made draft place, t.createDirectories (Path.parent path) = (.ok (), made) ∧
      made.follow (draftPath path) = .ok draft ∧ made.entry? draft ≠ some .directory ∧
        made.fate draft = .done ∧
        (made.set draft (.file c.text.toUTF8)).target path = .ok place := by
  obtain ⟨fault, hfault, -⟩ | ⟨-, hmade, draft, place, hdraft, hfree, hfate, hplace, -, -⟩ :=
    save_cases t path c
  · rw [hfault] at h
    cases h
  · exact ⟨_, draft, place, Prod.ext hmade rfl, hdraft, hfree, hfate, hplace⟩

section Draft

variable {made : FileTree} {draft : Place}
  (hmade : t.createDirectories (Path.parent path) = (.ok (), made))
  (hdraft : made.follow (draftPath path) = .ok draft) (hfree : made.entry? draft ≠ some .directory)
  (hfate : made.fate draft = .done)

include hmade hdraft hfree hfate

/-- Once the draft is written it is moved to where the path of the file leads. -/
theorem save_eq_rename (c : Catalog) :
    save t path c = (match (made.set draft (.file c.text.toUTF8)).target path with
      | .error fault => (.error (.file fault), made.set draft (.file c.text.toUTF8))
      | .ok place => (.ok (), (made.set draft (.file c.text.toUTF8)).move draft place)) := by
  have horigin := follow_of_keeps (keeps_set hfree (.file c.text.toUTF8)) hdraft
  have hcontent : (made.set draft (.file c.text.toUTF8)).read (draftPath path) =
      .ok c.text.toUTF8 :=
    read_eq_ok.2 ⟨draft, horigin, entry?_set_self (ne_nil_of_not_directory hfree) _ _⟩
  simp only [save, FileSystem.createDirectories, FileSystem.write, FileSystem.rename, hmade,
    write_of_done hdraft hfree hfate, rename, route, horigin, hcontent, bind, Except.bind]
  cases (made.set draft (.file c.text.toUTF8)).target path <;> rfl

theorem save_eq_ok {place : Place}
    (hplace : (made.set draft (.file c.text.toUTF8)).target path = .ok place) :
    save t path c = (.ok (), (made.set draft (.file c.text.toUTF8)).move draft place) := by
  rw [save_eq_rename hmade hdraft hfree hfate c, hplace]

end Draft

/-- A catalog that is saved can be saved again. -/
theorem save_again (h : (save t path c).1 = .ok ()) :
    (save (save t path c).2 path c).1 = .ok () := by
  obtain ⟨made, draft, place, hmade, hdraft, hfree, hfate, hplace⟩ := exists_of_save_eq_ok h
  obtain ⟨-, htarget⟩ := target_eq_ok hplace
  rw [save_eq_ok hmade hdraft hfree hfate hplace]
  -- neither the draft nor the place of the file becomes a directory on the way
  have hwritten := set_ne_directory hfree draft c.text.toUTF8
  have hdraftFree := move_ne_directory hwritten htarget hwritten
  have hplaceFree := move_ne_directory hwritten htarget htarget
  have hmoved := keeps_move hwritten htarget
  have hkeeps := (keeps_set hfree _).trans hmoved
  have hagain := keeps_set hdraftFree (.file c.text.toUTF8)
  rw [save_eq_ok (createDirectories_of_keeps hmade hkeeps) (follow_of_keeps hkeeps hdraft)
    hdraftFree (by simpa using hfate)]
  exact target_of_keeps (hmoved.trans hagain) (by simp) hplace
    (set_ne_directory hplaceFree draft c.text.toUTF8)

/-- A catalog without floating-point numbers that came about in any way comes back when it is saved
and loaded, and what was loaded can be saved again and leaves the same content. -/
theorem load_save (hreachable : c.Reachable) (hexact : c.IsExact)
    (hsave : (save t path c).1 = .ok ()) :
    load (save t path c).2 path = .ok c ∧
      ∀ loaded, load (save t path c).2 path = .ok loaded →
        (save (save t path c).2 path loaded).1 = .ok () ∧
          ∃ content, (save t path c).2.read path = .ok content ∧
            (save (save t path c).2 path loaded).2.read path = .ok content := by
  have hread := read_save_of_ok hsave
  have hload := load_of_ofText (readText_of_read hread) (ofText_text hreachable.sound hexact)
  refine ⟨hload, fun loaded hloaded => ?_⟩
  obtain rfl : c = loaded := Except.ok.inj (hload.symm.trans hloaded)
  have hagain := save_again hsave
  exact ⟨hagain, c.text.toUTF8, hread, read_save_of_ok hagain⟩

/-- A text that keeps members beside those of a catalog and of its only source. -/
def annotated : String :=
  "\x7b\"rate\":3,\"sources\":[\x7b\"note\":\x7b\"b\":[null,-2],\"a\":\"\\u00e9\\n\"\x7d," ++
    "\"name\":\"old\",\"product_links\":[\x7b\"link\":\"http://s.test/ink\"\x7d]\x7d]\x7d"

/-- That text as it is written. -/
def annotatedTree : Tree :=
  .object [(some "rate", .number { whole := ['3'] }), (some "sources", .array [.object [
    (some "note", .object [(some "b", .array [.null, .number { negative := true, whole := ['2'] }]),
      (some "a", .string (some "é\n"))]), (some "name", .string (some "old")),
    (some "product_links", .array [.object [(some "link", .string (some "http://s.test/ink"))]])]])]

/-- The catalog of that text. -/
def annotatedCatalog : Catalog :=
  { listings := [{ name := "old", products := [{ link := "http://s.test/ink" }]
                   others := [("note", .object [("a", .string "é\n"),
                     ("b", .array [.null, .number (.int (-2))])])] }]
    others := [("rate", .number (.int 3))] }

/-- The findings of a crawl with one product page. -/
def teaFindings : Findings :=
  ⟨[("http://s.test/tea", { isProduct := true, kind := none, text := some "Tea \"fresh\"" })]⟩

theorem tokens_annotated : tokens annotated = annotatedTree.tokens := by
  decide +kernel

theorem ofText_annotated : ofText annotated = .ok annotatedCatalog := by
  rw [ofText, readAs_eq tokens_annotated]
  rfl

theorem readText_annotated : (resultsFile annotated).readText "r.json" = .ok annotated := by
  decide +kernel

theorem isExact_annotatedCatalog : annotatedCatalog.IsExact := by
  refine ⟨List.forall_mem_singleton.2 (.int 3), List.forall_mem_singleton.2 ?_⟩
  refine List.forall_mem_singleton.2 (.object ?_)
  refine List.forall_mem_cons.2 ⟨.string _, List.forall_mem_singleton.2 (.array ?_)⟩
  exact List.forall_mem_cons.2 ⟨.null, List.forall_mem_singleton.2 (.int _)⟩

/-- Members beside the known ones come back with the products of a crawl, from a directory that is
made for them. -/
theorem load_save_annotated :
    load (resultsFile annotated) "r.json" = .ok annotatedCatalog ∧
    (save (resultsFile annotated) "out/r.json"
      (annotatedCatalog.update (.ofFindings "new" teaFindings))).1 = .ok () ∧
    load (save (resultsFile annotated) "out/r.json"
      (annotatedCatalog.update (.ofFindings "new" teaFindings))).2 "out/r.json" =
        .ok (annotatedCatalog.update (.ofFindings "new" teaFindings)) := by
  have hload := load_of_ofText readText_annotated ofText_annotated
  have hsave : (save (resultsFile annotated) "out/r.json"
      (annotatedCatalog.update (.ofFindings "new" teaFindings))).1 = .ok () := by
    decide +kernel
  have hexact := isExact_annotatedCatalog.update "new" teaFindings
  exact ⟨hload, hsave, (load_save (.updated "new" teaFindings (.loaded hload)) hexact hsave).1⟩

end Catalog

end Prospector
