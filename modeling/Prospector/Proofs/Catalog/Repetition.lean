import Prospector.Proofs.Catalog.Roundtrip

/-!
# Saving again and in another order

Whether the results file can be written depends neither on what is written nor on how often it was
tried: either every catalog can be saved, and then again and again, or none can, and no attempt
changes what stands in the file. So of two crawls whose products are saved one after the other both
are saved or neither is, whichever comes first. What is saved is what the updates of the catalog
come to: the same update twice is the update once, and updates of different names commute, but for
the order of names that come to the end.

## Main definitions

* `Catalog.Writable` : whether every catalog can be saved.
* `Catalog.Attempted` : the trees that attempts to save catalogs leave.
* `Catalog.Blocked` : whether no catalog can be saved, however often it is tried.

## Main results

* `Catalog.writable_or_blocked` : it is one or the other.
* `Catalog.saveFindings_of_writable` : what is saved and loaded again.
* `Catalog.saves_commute` : saving again and in the other order.
-/

namespace Prospector.Catalog

open FileTree

variable {t : FileTree} {path : String} {c : Catalog}

/-! ## Saving any catalog -/

/-- Whether every catalog can be saved. -/
def Writable (t : FileTree) (path : String) : Prop :=
  ∀ c, (save t path c).1 = .ok ()

/-- `Attempted t path t'` says that one attempt after the other to save a catalog has left `t'` of
the tree `t`. -/
inductive Attempted (t : FileTree) (path : String) : FileTree → Prop
  | first (c : Catalog) : Attempted t path (save t path c).2
  | again {t' : FileTree} (c : Catalog) : Attempted t path t' → Attempted t path (save t' path c).2

/-- Whether no catalog can be saved, however often it is tried, and every attempt leaves the same in
the file. -/
structure Blocked (t : FileTree) (path : String) : Prop where
  first : ∀ c, ∃ fault, (save t path c).1 = .error fault
  again : ∀ t', Attempted t path t' → ∀ c, ∃ fault, (save t' path c).1 = .error fault
  find : ∃ found, ∀ t', Attempted t path t' → t'.find path = found

/-- Saving starts with directories, which may have been made before. -/
theorem save_made (t : FileTree) (path : String) (c : Catalog) :
    save (t.createDirectories (Path.parent path)).2 path c = save t path c := by
  simp only [save, FileSystem.createDirectories, createDirectories_again]

/-- Attempts that stop before the draft is written change nothing but directories. -/
theorem blocked_of_stops (h : ∀ c, ∃ fault,
    save t path c = (.error fault, (t.createDirectories (Path.parent path)).2)) :
    Blocked t path := by
  have htree : ∀ t', Attempted t path t' → t' = (t.createDirectories (Path.parent path)).2 := by
    intro t' ht'
    induction ht' with
    | first c =>
        obtain ⟨fault, hsave⟩ := h c
        rw [hsave]
    | again c _ ih =>
        obtain ⟨fault, hsave⟩ := h c
        rw [ih, save_made, hsave]
  constructor
  · intro c
    obtain ⟨fault, hsave⟩ := h c
    exact ⟨fault, by rw [hsave]⟩
  · intro t' ht' c
    obtain ⟨fault, hsave⟩ := h c
    exact ⟨fault, by rw [htree t' ht', save_made, hsave]⟩
  · refine ⟨(t.createDirectories (Path.parent path)).2.find path, fun t' ht' => ?_⟩
    rw [htree t' ht']

section Draft

variable {made : FileTree} {draft : Place}
  (hmade : t.createDirectories (Path.parent path) = (.ok (), made))
  (hdraft : made.follow (draftPath path) = .ok draft) (hfree : made.entry? draft ≠ some .directory)

include hmade hdraft hfree

/-- Attempts that change nothing but the draft and directories, whatever the draft holds. -/
theorem blocked_of_draft (hstops : ∀ first start : FileTree,
    first.createDirectories (Path.parent path) = (.ok (), start) →
    start.follow (draftPath path) = .ok draft → start.entry? draft ≠ some .directory →
    (∀ content, SameBut draft (made.set draft (.file .empty)) (start.set draft (.file content))) →
      ∀ c, ∃ fault content, save first path c = (.error fault, start.set draft (.file content))) :
    Blocked t path := by
  have hfirst := hstops t made hmade hdraft hfree (sameBut_set hfree .empty)
  have hagain : ∀ t', SameBut draft (made.set draft (.file .empty)) t' → ∀ c,
      ∃ fault content, save t' path c = (.error fault, t'.set draft (.file content)) := by
    intro t' ht'
    have hkeeps := (keeps_set hfree (.file .empty)).trans ht'.keeps
    exact hstops t' t' (createDirectories_of_keeps hmade hkeeps) (follow_of_keeps hkeeps hdraft)
      ht'.ne_directory ht'.set
  have htree : ∀ t', Attempted t path t' → SameBut draft (made.set draft (.file .empty)) t' := by
    intro t' ht'
    induction ht' with
    | first c =>
        obtain ⟨fault, content, hsave⟩ := hfirst c
        rw [hsave]
        exact sameBut_set hfree .empty content
    | again c _ ih =>
        obtain ⟨fault, content, hsave⟩ := hagain _ ih c
        rw [hsave]
        exact ih.set content
  -- the path of the file does not lead to the draft
  have hother : (made.set draft (.file .empty)).follow path ≠ .ok draft := by
    intro hsame
    exact follow_withExtension hsame (set_ne_directory hfree draft .empty)
      (follow_of_keeps (keeps_set hfree _) hdraft) rfl
  constructor
  · intro c
    obtain ⟨fault, content, hsave⟩ := hfirst c
    exact ⟨fault, by rw [hsave]⟩
  · intro t' ht' c
    obtain ⟨fault, content, hsave⟩ := hagain t' (htree t' ht') c
    exact ⟨fault, by rw [hsave]⟩
  · exact ⟨_, fun t' ht' => (htree t' ht').find_eq hother⟩

/-- If the draft cannot be written to its end, no catalog can be saved. -/
theorem blocked_of_cut {bytes : Nat} (hfate : made.fate draft = .cut bytes) : Blocked t path := by
  refine blocked_of_draft hmade hdraft hfree fun first start hstart hfollow hplace hsame c => ?_
  have hcut : start.fate draft = .cut bytes := by
    rw [← hfate]
    exact congrFun (hsame .empty).fate draft
  refine ⟨.file .noSpace, c.text.toUTF8.extract 0 bytes, ?_⟩
  simp only [save, FileSystem.createDirectories, FileSystem.write, hstart,
    write_of_cut hfollow hplace hcut]

/-- If the draft is written, every catalog can be saved or none can: nothing but the content of the
draft is new when it is moved. -/
theorem writable_or_blocked_of_done (hfate : made.fate draft = .done) :
    Writable t path ∨ Blocked t path := by
  cases htarget : (made.set draft (.file .empty)).target path with
  | ok place =>
      refine .inl fun c => ?_
      have hplace : (made.set draft (.file c.text.toUTF8)).target path = .ok place := by
        rw [(sameBut_set hfree .empty c.text.toUTF8).target_eq, htarget]
      rw [save_eq_ok hmade hdraft hfree hfate hplace]
  | error fault =>
      refine .inr (blocked_of_draft hmade hdraft hfree
        fun first start hstart hfollow hplace hsame c => ⟨.file fault, c.text.toUTF8, ?_⟩)
      have hdone : start.fate draft = .done := by
        rw [← hfate]
        exact congrFun (hsame .empty).fate draft
      rw [save_eq_rename hstart hfollow hplace hdone, (hsame c.text.toUTF8).target_eq, htarget]

end Draft

/-- Either every catalog can be saved, or none can, however often it is tried. -/
theorem writable_or_blocked (t : FileTree) (path : String) : Writable t path ∨ Blocked t path := by
  rcases hmade : t.createDirectories (Path.parent path) with ⟨result, made⟩
  cases result with
  | error fault =>
      refine .inr (blocked_of_stops fun c => ⟨.file fault, ?_⟩)
      simp only [save, FileSystem.createDirectories, hmade]
  | ok =>
      by_cases hdraft : ∃ draft, made.follow (draftPath path) = .ok draft ∧
          made.entry? draft ≠ some .directory ∧ made.fate draft ≠ .refused
      · obtain ⟨draft, hdraft, hfree, hfate⟩ := hdraft
        cases hdone : made.fate draft with
        | done => exact writable_or_blocked_of_done hmade hdraft hfree hdone
        | refused => exact absurd hdone hfate
        | cut bytes => exact .inr (blocked_of_cut hmade hdraft hfree hdone)
      · refine .inr (blocked_of_stops fun c => ?_)
        have hrefused : ∃ fault,
            made.write (draftPath path) c.text.toUTF8 = (.error fault, made) := by
          obtain hstop | ⟨draft, hfollow, hfree, -⟩ :=
            write_cases made (draftPath path) c.text.toUTF8
          · exact hstop
          · have hfate : made.fate draft = .refused := by
              by_contra hfate
              exact hdraft ⟨draft, hfollow, hfree, hfate⟩
            exact ⟨_, write_of_refused hfollow hfree hfate _⟩
        obtain ⟨fault, hwrite⟩ := hrefused
        refine ⟨.file fault, ?_⟩
        simp only [save, FileSystem.createDirectories, FileSystem.write, hmade, hwrite]

theorem writable_of_save (h : (save t path c).1 = .ok ()) : Writable t path := by
  refine (writable_or_blocked t path).resolve_right fun hblocked => ?_
  obtain ⟨fault, hfault⟩ := hblocked.first c
  rw [h] at hfault
  cases hfault

theorem Writable.save (h : Writable t path) (c : Catalog) : Writable (save t path c).2 path :=
  writable_of_save (save_again (h c))

/-! ## Saving the findings of a crawl -/

/-- What is loaded and read depends on what stands in the file. -/
theorem load_congr {t' : FileTree} (h : t.find path = t'.find path) :
    load t path = load t' path ∧ t.read path = t'.read path := by
  have hread : t.read path = t'.read path := by
    unfold FileTree.read
    rw [h]
  have hholds : t.holds path = t'.holds path := by
    unfold holds
    rw [h]
  refine ⟨?_, hread⟩
  unfold load readText
  rw [hholds, hread]

/-- Where every catalog can be saved, the products of a crawl are, and the file holds the catalog
that was there with them. -/
theorem saveFindings_of_writable (h : Writable t path) (hload : load t path = .ok c)
    (hreachable : c.Reachable) (hexact : c.IsExact) (name : String) (fs : Findings) :
    (saveFindings t path name fs).1 = .ok fs.products.length ∧
      Writable (saveFindings t path name fs).2 path ∧
      load (saveFindings t path name fs).2 path = .ok (c.update (.ofFindings name fs)) ∧
      (saveFindings t path name fs).2.read path =
        .ok (c.update (.ofFindings name fs)).text.toUTF8 := by
  obtain ⟨fault, hfault, -⟩ | ⟨c', hload', htree, hresult⟩ := saveFindings_cases t path name fs
  · exact nomatch hload.symm.trans hfault
  · obtain rfl : c = c' := Except.ok.inj (hload.symm.trans hload')
    have hsave := h (c.update (.ofFindings name fs))
    rw [htree]
    refine ⟨?_, h.save _, ?_, read_save_of_ok hsave⟩
    · rw [hresult, hsave]
      rfl
    · exact (load_save (.updated name fs hreachable) (hexact.update name fs) hsave).1

/-- Where no catalog can be saved, the products of a crawl cannot be either. -/
theorem Blocked.saveFindings (h : Blocked t path) {t' : FileTree} (ht' : Attempted t path t')
    (name : String) (fs : Findings) :
    (∃ fault, (saveFindings t' path name fs).1 = .error fault) ∧
      Attempted t path (saveFindings t' path name fs).2 := by
  obtain ⟨fault, -, hfailed⟩ | ⟨c, -, htree, hresult⟩ := saveFindings_cases t' path name fs
  · rw [hfailed]
    exact ⟨⟨fault, rfl⟩, ht'⟩
  · obtain ⟨fault, hfault⟩ := h.again t' ht' (c.update (.ofFindings name fs))
    rw [htree, hresult, hfault]
    exact ⟨⟨fault, rfl⟩, .again _ ht'⟩

theorem Blocked.saveFindings_first (h : Blocked t path) (hload : load t path = .ok c)
    (name : String) (fs : Findings) :
    (∃ fault, (Catalog.saveFindings t path name fs).1 = .error fault) ∧
      Attempted t path (Catalog.saveFindings t path name fs).2 := by
  obtain ⟨fault, hfault, -⟩ | ⟨c', -, htree, hresult⟩ := saveFindings_cases t path name fs
  · exact nomatch hload.symm.trans hfault
  · obtain ⟨fault, hfault⟩ := h.first (c'.update (.ofFindings name fs))
    rw [htree, hresult, hfault]
    exact ⟨⟨fault, rfl⟩, .first _⟩

/-- Let a results file be loaded that keeps no floating-point numbers, or none that is there. Saving
the products of a crawl again leaves the file as it is. Products of two crawls of different names
are both saved or neither is; either way the file holds the same under every name, whichever are
saved first, and it is the same byte for byte if one of the names was there. -/
theorem saves_commute (hload : load t path = .ok c) (hexact : c.IsExact) {m n : String}
    (hne : m ≠ n) (r s : Findings) :
    let once := saveFindings t path n r
    let twice := saveFindings once.2 path n r
    let other := saveFindings t path m s
    let mn := saveFindings other.2 path n r
    let nm := saveFindings once.2 path m s
    (∀ count, once.1 = .ok count → twice.1 = .ok count ∧
      ∃ content, once.2.read path = .ok content ∧ twice.2.read path = .ok content) ∧
    (other.1.isOk = once.1.isOk ∧ mn.1.isOk = once.1.isOk ∧ nm.1.isOk = once.1.isOk) ∧
    (once.1.isOk = true → ∃ saved, load mn.2 path = .ok saved) ∧
    (∀ name, (load mn.2 path).map (fun saved => saved.find? name) =
      (load nm.2 path).map fun saved => saved.find? name) ∧
    (m ∈ c.names ∨ n ∈ c.names → mn.2.read path = nm.2.read path) := by
  intro once twice other mn nm
  have hreachable : c.Reachable := .loaded hload
  rcases writable_or_blocked t path with hwritable | hblocked
  · obtain ⟨honce, hw, hl, honceRead⟩ :=
      saveFindings_of_writable hwritable hload hreachable hexact n r
    have hreach : (c.update (.ofFindings n r)).Reachable := .updated n r hreachable
    obtain ⟨htwice, -, -, htwiceRead⟩ :=
      saveFindings_of_writable hw hl hreach (hexact.update n r) n r
    obtain ⟨hnm, -, hnmLoad, hnmRead⟩ :=
      saveFindings_of_writable hw hl hreach (hexact.update n r) m s
    obtain ⟨hother, hw, hl, -⟩ := saveFindings_of_writable hwritable hload hreachable hexact m s
    obtain ⟨hmn, -, hmnLoad, hmnRead⟩ :=
      saveFindings_of_writable hw hl (.updated m s hreachable) (hexact.update m s) n r
    refine ⟨?_, ?_, ?_, ?_, ?_⟩
    · intro count hcount
      obtain rfl := Except.ok.inj (honce.symm.trans hcount)
      rw [update_update_self] at htwiceRead
      exact ⟨htwice, _, honceRead, htwiceRead⟩
    · simp [once, other, mn, nm, honce, hother, hmn, hnm, Except.isOk, Except.toBool]
    · intro _
      exact ⟨_, hmnLoad⟩
    · intro name
      rw [hmnLoad, hnmLoad]
      exact congrArg Except.ok (find?_update_comm c hne name)
    · intro hthere
      rw [hmnRead, hnmRead, update_comm hne hthere]
  · obtain ⟨⟨_, honce⟩, honceTree⟩ := hblocked.saveFindings_first hload n r
    obtain ⟨⟨_, hother⟩, hotherTree⟩ := hblocked.saveFindings_first hload m s
    obtain ⟨⟨_, hmn⟩, hmnTree⟩ := hblocked.saveFindings hotherTree n r
    obtain ⟨⟨_, hnm⟩, hnmTree⟩ := hblocked.saveFindings honceTree m s
    obtain ⟨found, hfound⟩ := hblocked.find
    obtain ⟨hsameLoad, hsameRead⟩ :=
      load_congr ((hfound _ hmnTree).trans (hfound _ hnmTree).symm)
    refine ⟨?_, ?_, ?_, ?_, ?_⟩
    · intro count hcount
      exact nomatch honce.symm.trans hcount
    · simp [once, other, mn, nm, honce, hother, hmn, hnm, Except.isOk, Except.toBool]
    · intro hok
      rw [show once.1 = _ from honce] at hok
      cases hok
    · intro name
      rw [hsameLoad]
    · intro _
      exact hsameRead

theorem load_annotated : load (resultsFile annotated) "r.json" = .ok annotatedCatalog :=
  load_of_ofText readText_annotated ofText_annotated

/-- Products of a name that is there and of one that is not leave the same bytes in either order,
whichever are saved first. -/
theorem saves_commute_annotated :
    let once := saveFindings (resultsFile annotated) "r.json" "tea" teaFindings
    let other := saveFindings (resultsFile annotated) "r.json" "old" {}
    once.1 = .ok 1 ∧
      (∃ content, once.2.read "r.json" = .ok content ∧
        (saveFindings once.2 "r.json" "tea" teaFindings).2.read "r.json" = .ok content) ∧
      (saveFindings other.2 "r.json" "tea" teaFindings).2.read "r.json" =
        (saveFindings once.2 "r.json" "old" {}).2.read "r.json" := by
  intro once other
  obtain ⟨htwice, -, -, -, hbytes⟩ := saves_commute load_annotated isExact_annotatedCatalog
    (m := "old") (n := "tea") (by decide) teaFindings {}
  have honce : once.1 = .ok 1 := by decide +kernel
  exact ⟨honce, (htwice 1 honce).2, hbytes (.inl (by decide))⟩

end Prospector.Catalog
