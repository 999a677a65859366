import Prospector.Catalog.Store
import Prospector.Proofs.Catalog.Reading
import Prospector.Proofs.Files.Draft

/-!
# What saving does to the results file

A catalog that is saved stands in its file, and a file that could not be replaced is as it was. So a
file whose text can be read never loses a source: its sources are read, kept by the update and
written again, or nothing is written at all. A text that is taken for broken though it is JSON
counts as an empty catalog, and its sources are lost.

## Main results

* `Catalog.read_save_of_ok`, `Catalog.read_save_of_error` : what stands in the file after saving.
* `Catalog.keeps_sources` : saving the findings of a crawl keeps the sources of a text within
  limits.
* `Catalog.not_keeps_sources_rate` : a number out of range loses them.
-/

namespace Prospector

namespace FileTree

theorem readText_of_read {t : FileTree} {path s : String} (h : t.read path = .ok s.toUTF8) :
    t.readText path = .ok s := by
  have htext : String.fromUTF8? s.toUTF8 = some s := by
    rw [String.fromUTF8?, String.toUTF8_eq_toByteArray, dif_pos s.isValidUTF8]
    rfl
  rw [readText, h]
  simp only [bind, Except.bind, htext]

theorem exists_read_of_readText {t : FileTree} {path s : String} (h : t.readText path = .ok s) :
    ∃ content, t.read path = .ok content := by
  obtain ⟨content, hread, -⟩ := bind_eq_ok.1 h
  exact ⟨content, hread⟩

theorem holds_of_read {t : FileTree} {path : String} {content : ByteArray}
    (h : t.read path = .ok content) : t.holds path = true := by
  obtain ⟨entry, hfind, -⟩ := bind_eq_ok.1 h
  rw [holds, hfind]

end FileTree

namespace Catalog

open FileTree

variable {t : FileTree} {path : String} {content : ByteArray} {c : Catalog}

/-! ## The file after saving -/

/-- What saving can do once the directories are made: it stops before or after something is written
to the draft, or it moves the draft to where the path of the file leads, which is another place. -/
theorem save_cases (t : FileTree) (path : String) (c : Catalog) :
    let made := (t.createDirectories (Path.parent path)).2
    (∃ fault, (save t path c).1 = .error fault ∧
        ((save t path c).2 = made ∨ ∃ draft content, made.follow (draftPath path) = .ok draft ∧
          made.entry? draft ≠ some .directory ∧
          (save t path c).2 = made.set draft (.file content))) ∨
      (save t path c).1 = .ok () ∧ (t.createDirectories (Path.parent path)).1 = .ok () ∧
        ∃ draft place, made.follow (draftPath path) = .ok draft ∧
        made.entry? draft ≠ some .directory ∧ made.fate draft = .done ∧
        (made.set draft (.file c.text.toUTF8)).target path = .ok place ∧ draft ≠ place ∧
        (save t path c).2 = (made.set draft (.file c.text.toUTF8)).move draft place := by
  intro made
  simp only [save, FileSystem.createDirectories, FileSystem.write, FileSystem.rename]
  cases hmade : t.createDirectories (Path.parent path) with
  | mk result tree =>
      obtain rfl : tree = made := by simp only [made, hmade]
      cases result with
      | error fault => exact .inl ⟨_, rfl, .inl rfl⟩
      | ok =>
          simp only
          obtain ⟨fault, hwrite⟩ | ⟨draft, hdraft, hfree, ⟨fault, bytes, hwrite⟩ |
              ⟨hfate, hwrite⟩⟩ := write_cases made (draftPath path) c.text.toUTF8
          · rw [hwrite]
            exact .inl ⟨_, rfl, .inl rfl⟩
          · rw [hwrite]
            exact .inl ⟨_, rfl, .inr ⟨draft, _, hdraft, hfree, rfl⟩⟩
          · simp only [hwrite, rename]
            cases hroute : (made.set draft (.file c.text.toUTF8)).route (draftPath path) path with
            | error fault => exact .inl ⟨_, rfl, .inr ⟨draft, _, hdraft, hfree, rfl⟩⟩
            | ok places =>
                obtain ⟨origin, place⟩ := places
                obtain ⟨horigin, -, hplace⟩ := route_eq_ok.1 hroute
                -- the path of the draft still leads to the draft
                obtain rfl : draft = origin :=
                  Except.ok.inj ((follow_of_keeps (keeps_set hfree _) hdraft).symm.trans horigin)
                obtain ⟨hfollow, htarget⟩ := target_eq_ok hplace
                exact .inr ⟨rfl, trivial, draft, place, hdraft, hfree, hfate, hplace,
                  follow_withExtension hfollow htarget horigin, rfl⟩

/-- A catalog that is saved stands in its file. -/
theorem read_save_of_ok (h : (save t path c).1 = .ok ()) :
    (save t path c).2.read path = .ok c.text.toUTF8 := by
  obtain ⟨fault, hfault, -⟩ | ⟨-, -, draft, place, -, hfree, -, hplace, -, htree⟩ :=
    save_cases t path c
  · rw [hfault] at h
    cases h
  · obtain ⟨hfollow, htarget⟩ := target_eq_ok hplace
    have hdraft := set_ne_directory hfree draft c.text.toUTF8
    have hnil := ne_nil_of_not_directory hfree
    rw [htree]
    refine read_eq_ok.2 ⟨place, follow_of_keeps (keeps_move hdraft htarget) hfollow, ?_⟩
    rw [entry?_move_self hnil (ne_nil_of_not_directory htarget), entry?_set_self hnil]

/-- A file that could not be replaced is as it was. -/
theorem read_save_of_error (hread : t.read path = .ok content) {fault : StoreFault}
    (h : (save t path c).1 = .error fault) : (save t path c).2.read path = .ok content := by
  have hmade := extends_createDirectories t (Path.parent path)
  obtain ⟨-, -, htree | ⟨draft, written, hdraft, hfree, htree⟩⟩ | ⟨hok, -⟩ := save_cases t path c
  · rw [htree]
    exact read_of_extends hmade hread
  · obtain ⟨place, hplace, hfile⟩ := read_eq_ok.1 (read_of_extends hmade hread)
    have hne : draft ≠ place := follow_withExtension hplace (by rw [hfile]; exact nofun) hdraft
    rw [htree]
    exact read_eq_ok.2 ⟨place, follow_of_keeps (keeps_set hfree _) hplace, by
      rw [entry?_set_of_ne hne.symm, hfile]⟩
  · rw [hok] at h
    cases h

/-! ## Sources -/

/-- An update keeps the names of all listings. -/
theorem exists_mem_updateListings (new : Listing) {ls : List Listing} {l : Listing} (h : l ∈ ls) :
    ∃ kept ∈ updateListings new ls, kept.name = l.name := by
  induction ls with
  | nil => exact absurd h List.not_mem_nil
  | cons old ls ih =>
      rw [updateListings]
      split
      · rcases List.mem_cons.1 h with rfl | h
        · exact ⟨_, List.mem_cons_self, rfl⟩
        · exact ⟨l, List.mem_cons_of_mem _ h, rfl⟩
      · rcases List.mem_cons.1 h with rfl | h
        · exact ⟨l, List.mem_cons_self, rfl⟩
        · obtain ⟨kept, hkept, hname⟩ := ih h
          exact ⟨kept, List.mem_cons_of_mem _ hkept, hname⟩

/-- A catalog is read from a text that is not taken for broken. -/
theorem ofText_of_load {old : String} (hold : t.readText path = .ok old)
    (hsound : ofText old ≠ .error .malformed) (hload : load t path = .ok c) :
    ofText old = .ok c := by
  obtain ⟨content, hread⟩ := exists_read_of_readText hold
  rw [load, if_pos (holds_of_read hread), hold] at hload
  simp only at hload
  split at hload
  · next htext =>
    rw [htext, Except.ok.inj hload]
  · next htext => exact absurd htext hsound
  · cases hload

/-- What saving the findings of a crawl can do: it reads no catalog and leaves everything as it is,
or it saves the catalog that was read with the products of the crawl. -/
theorem saveFindings_cases (t : FileTree) (path name : String) (fs : Findings) :
    (∃ fault, load t path = .error fault ∧ saveFindings t path name fs = (.error fault, t)) ∨
      ∃ c, load t path = .ok c ∧
        (saveFindings t path name fs).2 = (save t path (c.update (.ofFindings name fs))).2 ∧
        (saveFindings t path name fs).1 = (save t path (c.update (.ofFindings name fs))).1.map
          fun _ => (Listing.ofFindings name fs).products.length := by
  simp only [saveFindings, FileSystem.tree]
  cases hload : load t path with
  | error fault => exact .inl ⟨fault, rfl, rfl⟩
  | ok c =>
      refine .inr ⟨c, rfl, ?_⟩
      simp only
      split <;> next hsave => exact ⟨by rw [hsave], by rw [hsave]; rfl⟩

/-! ## Texts of one source -/

/-- A text that names one source without products, and what stands behind the sources. -/
def sole (name : String) (others : List (Option String × Json.Tree)) : Json.Tree :=
  .object ((some "sources", .array [.object [(some "name", .string (some name)),
    (some "product_links", .array [])]]) :: others)

variable {name : String} {others : List (Option String × Json.Tree)}

theorem eq_of_mem_sole {items : List Json.Tree} {source : List (Option String × Json.Tree)}
    {members : List (Option String × Json.Tree)} (h : ∀ m ∈ others, m.1 ≠ some "sources")
    (hsole : sole name others = .object members) (hitems : (some "sources", .array items) ∈ members)
    (hsource : .object source ∈ items) :
    source = [(some "name", .string (some name)), (some "product_links", .array [])] := by
  obtain rfl := Json.Tree.object.inj hsole
  rcases List.mem_cons.1 hitems with hfirst | hother
  · obtain rfl := Json.Tree.array.inj (Prod.mk.inj hfirst).2
    exact Json.Tree.object.inj (List.mem_singleton.1 hsource)
  · exact absurd rfl (h _ hother)

theorem namesSource_sole (h : ∀ m ∈ others, m.1 ≠ some "sources") {source : String} :
    NamesSource (sole name others) source ↔ source = name := by
  constructor
  · rintro ⟨members, items, source, hsole, hitems, hsource, hname⟩
    obtain rfl := eq_of_mem_sole h hsole hitems hsource
    simpa using hname
  · rintro rfl
    exact ⟨_, _, _, rfl, List.mem_cons_self, List.mem_cons_self, List.mem_cons_self⟩

theorem not_hasLongRow_sole (h : ∀ m ∈ others, m.1 ≠ some "sources") :
    ¬HasLongRow (sole name others) := by
  rintro ⟨members, items, source, products, row, hsole, hitems, hsource, hproducts, hrow, -⟩
  obtain rfl := eq_of_mem_sole h hsole hitems hsource
  obtain rfl : products = [] := by simpa using hproducts
  exact absurd hrow List.not_mem_nil

/-! ## Saving the findings of a crawl -/

/-- Saving the findings of a crawl keeps the sources of a text within the limits of the reader:
either it fails and the file is as it was, or the file holds a catalog that lists every source that
the text named. -/
theorem keeps_sources {old : String} (hold : t.readText path = .ok old) {tree : Json.Tree}
    (htokens : Json.tokens old = tree.tokens) (hfits : tree.fits Json.nestingLimit = true)
    (hrow : ¬HasLongRow tree) (name : String) (fs : Findings) :
    (∃ fault, (saveFindings t path name fs).1 = .error fault ∧
      (saveFindings t path name fs).2.read path = t.read path) ∨
    ∃ (count : Nat) (new : Catalog), (saveFindings t path name fs).1 = .ok count ∧
      (saveFindings t path name fs).2.readText path = .ok new.text ∧
      ∀ source, NamesSource tree source → ∃ l ∈ new.listings, l.name = source := by
  obtain ⟨content, hread⟩ := exists_read_of_readText hold
  obtain ⟨fault, -, hfailed⟩ | ⟨c, hload, htree, hresult⟩ := saveFindings_cases t path name fs
  · exact .inl ⟨fault, congrArg Prod.fst hfailed, by rw [hfailed]⟩
  · have hcatalog := ofText_of_load hold (ofText_ne_malformed htokens hfits hrow) hload
    cases hsave : (save t path (c.update (.ofFindings name fs))).1 with
    | error fault =>
        refine .inl ⟨fault, by rw [hresult, hsave]; rfl, ?_⟩
        rw [htree, read_save_of_error hread hsave, hread]
    | ok =>
        refine .inr ⟨_, c.update (.ofFindings name fs), by rw [hresult, hsave]; rfl, ?_, ?_⟩
        · rw [htree]
          exact readText_of_read (read_save_of_ok hsave)
        · intro source hsource
          obtain ⟨l, hl, rfl⟩ := exists_listing_of_namesSource htokens hcatalog hsource
          exact exists_mem_updateListings (.ofFindings name fs) hl

/-- A text that names the source `old` and has a number behind its sources. -/
def rated (rate : String) : String :=
  "\x7b\"sources\":[\x7b\"name\":\"old\",\"product_links\":[]\x7d],\"rate\":" ++ rate ++ "\x7d"

/-- The results file with a text. -/
def resultsFile (s : String) : FileTree :=
  { entries := [(["r.json"], .file s.toUTF8)] }

/-- The number 1000 with an exponent. -/
def thousand : Json.Literal :=
  { whole := ['1'], exponent := some ['3'] }

/-- A number in range does no harm. -/
theorem keeps_sources_rate :
    (resultsFile (rated "1e3")).readText "r.json" = .ok (rated "1e3") ∧
    Json.tokens (rated "1e3") = (sole "old" [(some "rate", .number thousand)]).tokens ∧
    ((∃ fault, (saveFindings (resultsFile (rated "1e3")) "r.json" "new" {}).1 = .error fault ∧
      (saveFindings (resultsFile (rated "1e3")) "r.json" "new" {}).2.read "r.json" =
        (resultsFile (rated "1e3")).read "r.json") ∨
    ∃ (count : Nat) (new : Catalog),
      (saveFindings (resultsFile (rated "1e3")) "r.json" "new" {}).1 = .ok count ∧
      (saveFindings (resultsFile (rated "1e3")) "r.json" "new" {}).2.readText "r.json" =
        .ok new.text ∧
      ∀ source, NamesSource (sole "old" [(some "rate", .number thousand)]) source →
        ∃ l ∈ new.listings, l.name = source) := by
  have hfile : (resultsFile (rated "1e3")).readText "r.json" = .ok (rated "1e3") := by
    decide +kernel
  have htokens : Json.tokens (rated "1e3") =
      (sole "old" [(some "rate", .number thousand)]).tokens := by
    decide +kernel
  have hfits : (sole "old" [(some "rate", .number thousand)]).fits Json.nestingLimit = true := by
    decide +kernel
  exact ⟨hfile, htokens,
    keeps_sources hfile htokens hfits (not_hasLongRow_sole (by simp)) "new" {}⟩

/-- A number out of range has a text taken for broken: the file is replaced and its source is
lost. -/
theorem not_keeps_sources_rate :
    (resultsFile (rated "1e999")).readText "r.json" = .ok (rated "1e999") ∧
    (∃ tree : Json.Tree, Json.tokens (rated "1e999") = tree.tokens ∧ NamesSource tree "old") ∧
    (saveFindings (resultsFile (rated "1e999")) "r.json" "new" {}).1 = .ok 0 ∧
    ∃ (new : String) (tree : Json.Tree),
      (saveFindings (resultsFile (rated "1e999")) "r.json" "new" {}).2.readText "r.json" = .ok new ∧
      Json.tokens new = tree.tokens ∧ ¬NamesSource tree "old" := by
  refine ⟨by decide +kernel, ?_, by decide +kernel, ?_⟩
  · refine ⟨sole "old" [(some "rate", .number ⟨false, ['1'], none, false, some ['9', '9', '9']⟩)],
      by decide +kernel, ?_⟩
    rw [namesSource_sole (by simp)]
  · refine ⟨"\x7b\n  \"sources\": [\n    \x7b\n      \"name\": \"new\",\n      " ++
      "\"product_links\": []\n    \x7d\n  ]\n\x7d\n", sole "new" [], by decide +kernel,
      by decide +kernel, ?_⟩
    rw [namesSource_sole (by simp)]
    decide

end Catalog

end Prospector
