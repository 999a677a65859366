import Prospector.Proofs.Catalog.Roundtrip
import Prospector.Proofs.Files.Links

/-!
# Saving is atomic

Saving a catalog makes the directories on the way to its file, writes the draft and moves it in
place, and each of these can fail, writing also when a part of the draft has been written. The draft
stands beside the file and never is the file itself, so whatever stood where the path leads stays
there until the draft is moved, and then the draft is gone. A path without `..` leads to the place
that its steps name, whatever parts of it stay where they are, so all of this can be said place by
place: of trees of files and directories in any state.

What is written to a draft that is another name of some file is written to that file. Files with
several names do not matter apart from that.

## Main definitions

* `Catalog.DiffersAtMost` : whether two trees are the same but for the file at a path, its draft and
  directories that were missing.
* `Catalog.Stands` : whether the file at a path has a text and its draft is gone.

## Main results

* `Catalog.differsAtMost_save`, `Catalog.entry?_save_of_error`, `Catalog.stands_save_of_ok` : what
  saving a catalog changes.
* `Catalog.save_of_sole` : files with several names do not matter if the draft has one.
* `Catalog.save_atomic` : all of it, for a catalog and for the findings of a crawl.
-/

namespace Prospector.Catalog

open FileTree

/-- Whether two trees are the same but for the file at a path, its draft, and directories on the way
to it that were missing. -/
def DiffersAtMost (t t' : FileTree) (path : String) : Prop :=
  ∀ place, place ≠ Path.steps path → place ≠ Path.steps (draftPath path) →
    t'.entry? place = t.entry? place ∨
      t.entry? place = none ∧ t'.entry? place = some .directory ∧ place <+: Path.steps path

/-- Whether the file at a path has a text and its draft is gone. -/
def Stands (t : FileTree) (path text : String) : Prop :=
  t.entry? (Path.steps path) = some (.file text.toUTF8) ∧ t.readText path = .ok text ∧
    t.entry? (Path.steps (draftPath path)) = none ∧ t.holds (draftPath path) = false

section Paths

variable {path name : String} (hname : Path.fileName? path = some name)
  (hup : ".." ∉ Path.parts path)

include hname

theorem steps_draftPath_ne : Path.steps (draftPath path) ≠ Path.steps path :=
  Path.steps_withExtension_ne hname

theorem draftPath_ne : draftPath path ≠ path := by
  intro h
  exact steps_draftPath_ne hname (congrArg Path.steps h)

/-- A place that leads to the directory of a file is not the place of the file. -/
theorem ne_steps_of_isPrefix {place : Place} (h : place <+: (Path.steps path).dropLast) :
    place ≠ Path.steps path := by
  rintro rfl
  have hlast := (Option.filter_eq_some_iff.1 hname).1
  have hlength := h.length_le
  rw [List.length_dropLast] at hlength
  have hnil : Path.steps path = [] := List.eq_nil_of_length_eq_zero (by omega)
  rw [hnil] at hlast
  cases hlast

include hup

theorem not_mem_parts_draftPath : ".." ∉ Path.parts (draftPath path) := by
  have hsteps : ".." ∉ (Path.steps path).dropLast ++ [Path.stem name ++ "." ++ "json.tmp"] := by
    intro h
    rcases List.mem_append.1 h with h | h
    · exact hup (List.mem_filter.1 ((List.dropLast_sublist _).subset h)).1
    · exact (Path.stem_append_moves name).2.2 (List.mem_singleton.1 h).symm
  rcases Path.parts_withExtension hname with hparts | hparts
  · rw [draftPath, hparts]
    exact hsteps
  · rw [draftPath, hparts, List.mem_cons, not_or]
    exact ⟨by decide, hsteps⟩

omit hname in
/-- Making the directory of a file makes directories on the way to it. -/
theorem entry?_createDirectories_parent (t : FileTree) (place : Place) :
    entry? (t.createDirectories (Path.parent path)).2 place = t.entry? place ∨
      t.entry? place = none ∧
        entry? (t.createDirectories (Path.parent path)).2 place = some .directory ∧
        place <+: (Path.steps path).dropLast := by
  rw [← Path.steps_parent]
  apply entry?_createDirectories
  rw [Path.steps_parent]
  intro h
  exact hup (List.mem_filter.1 ((List.dropLast_sublist _).subset h)).1

/-- Making the directory of a file leaves the place of the file alone. -/
theorem entry?_steps_createDirectories (t : FileTree) :
    entry? (t.createDirectories (Path.parent path)).2 (Path.steps path) =
      t.entry? (Path.steps path) := by
  rcases entry?_createDirectories_parent hup t (Path.steps path) with hsame | ⟨-, -, hway⟩
  · exact hsame
  · exact absurd rfl (ne_steps_of_isPrefix hname hway)

omit hname in
theorem differsAtMost_createDirectories (t : FileTree) :
    DiffersAtMost t (t.createDirectories (Path.parent path)).2 path := by
  intro place _ _
  refine (entry?_createDirectories_parent hup t place).imp_right ?_
  rintro ⟨hnone, hnew, hway⟩
  exact ⟨hnone, hnew, hway.trans (List.dropLast_prefix _)⟩

end Paths

/-! ## Saving a catalog -/

section Save

variable {t : FileTree} {path name : String} {c : Catalog}
  (hname : Path.fileName? path = some name) (hup : ".." ∉ Path.parts path)

include hname hup

/-- Saving a catalog changes its file and the draft of it, and makes directories on the way. -/
theorem differsAtMost_save (t : FileTree) (c : Catalog) :
    DiffersAtMost t (save t path c).2 path := by
  have hmade := differsAtMost_createDirectories hup t
  have hdraftUp := not_mem_parts_draftPath hname hup
  intro place hplace hdraftPlace
  rcases save_cases t path c with ⟨-, -, htree | ⟨draft, content, hdraft, -, htree⟩⟩ |
      ⟨-, -, draft, file, hdraft, -, -, htarget, -, htree⟩
  · rw [htree]
    exact hmade place hplace hdraftPlace
  · rw [htree, entry?_set_of_ne (eq_steps_of_follow hdraftUp hdraft ▸ hdraftPlace)]
    exact hmade place hplace hdraftPlace
  · have hneDraft : place ≠ draft := eq_steps_of_follow hdraftUp hdraft ▸ hdraftPlace
    have hneFile : place ≠ file := eq_steps_of_follow hup (target_eq_ok htarget).1 ▸ hplace
    rw [htree, entry?_move_of_ne hneDraft hneFile, entry?_set_of_ne hneDraft]
    exact hmade place hplace hdraftPlace

/-- A catalog that could not be saved leaves what stood at the place of its file. -/
theorem entry?_save_of_error {fault : StoreFault} (h : (save t path c).1 = .error fault) :
    entry? (save t path c).2 (Path.steps path) = t.entry? (Path.steps path) := by
  rcases save_cases t path c with ⟨-, -, htree | ⟨draft, content, hdraft, -, htree⟩⟩ | ⟨hok, -⟩
  · rw [htree, entry?_steps_createDirectories hname hup]
  · have hdraftSteps := eq_steps_of_follow (not_mem_parts_draftPath hname hup) hdraft
    have hne : Path.steps path ≠ draft := by
      rw [hdraftSteps]
      exact (steps_draftPath_ne hname).symm
    rw [htree, entry?_set_of_ne hne, entry?_steps_createDirectories hname hup]
  · rw [hok] at h
    cases h

/-- A catalog that was saved stands in its file, and its draft is gone. -/
theorem stands_save_of_ok (h : (save t path c).1 = .ok ()) :
    Stands (save t path c).2 path c.text := by
  have hread := read_save_of_ok h
  rcases save_cases t path c with ⟨fault, hfault, -⟩ |
      ⟨-, -, draft, file, hdraft, hfree, -, htarget, hne, htree⟩
  · rw [hfault] at h
    cases h
  · have hdraftUp := not_mem_parts_draftPath hname hup
    obtain ⟨hfile, hfileFree⟩ := target_eq_ok htarget
    obtain rfl := eq_steps_of_follow hdraftUp hdraft
    obtain rfl := eq_steps_of_follow hup hfile
    have hnil := ne_nil_of_not_directory hfree
    have hgone : entry? (save t path c).2 (Path.steps (draftPath path)) = none := by
      rw [htree, entry?_move_origin hnil hne]
    refine ⟨?_, readText_of_read hread, hgone, ?_⟩
    · rw [htree, entry?_move_self hnil (ne_nil_of_not_directory hfileFree), entry?_set_self hnil]
    · rw [holds, FileTree.find]
      cases hfollow : (save t path c).2.follow (draftPath path) with
      | error fault => rfl
      | ok place =>
          obtain rfl := eq_steps_of_follow hdraftUp hfollow
          simp only [bind, Except.bind, hgone]

end Save

/-! ## Files with several names -/

section Links

variable {path name : String} (hname : Path.fileName? path = some name)
  (hup : ".." ∉ Path.parts path) {t : LinkedTree}
  (hsole : ∀ names ∈ t.links, Path.steps (draftPath path) ∉ names)

include hname hup hsole

/-- If the draft has no second name, files that have several do not matter to saving a catalog. -/
theorem save_of_sole (c : Catalog) :
    (save t path c).1 = (save t.tree path c).1 ∧
      (save t path c).2.tree = (save t.tree path c).2 := by
  have hdraftUp := not_mem_parts_draftPath hname hup
  have hnames : ∀ tree : FileTree, ∀ place, tree.follow (draftPath path) = .ok place →
      LinkedTree.names { t with tree } place = [] := by
    intro tree place hplace
    obtain rfl := eq_steps_of_follow hdraftUp hplace
    exact LinkedTree.names_eq_nil hsole
  simp only [save, FileSystem.createDirectories, FileSystem.write, FileSystem.rename,
    LinkedTree.createDirectories]
  rcases t.tree.createDirectories (Path.parent path) with ⟨fault | _, made⟩
  · exact ⟨rfl, rfl⟩
  · have hwrite := LinkedTree.write_of_names_eq_nil (t := { t with tree := made })
      c.text.toUTF8 (hnames made)
    simp only [hwrite]
    rcases made.write (draftPath path) c.text.toUTF8 with ⟨fault | _, written⟩
    · exact ⟨rfl, rfl⟩
    · obtain ⟨links, hrename⟩ := LinkedTree.exists_rename_of_names_eq_nil
        (t := { t with tree := written }) path (hnames written)
      simp only [hrename]
      rcases written.rename (draftPath path) path with ⟨fault | _, moved⟩
      · exact ⟨rfl, rfl⟩
      · exact ⟨rfl, rfl⟩

theorem saveFindings_of_sole (source : String) (fs : Findings) :
    (saveFindings t path source fs).1 = (saveFindings t.tree path source fs).1 ∧
      (saveFindings t path source fs).2.tree = (saveFindings t.tree path source fs).2 := by
  simp only [saveFindings, FileSystem.tree]
  cases load t.tree path with
  | error fault => exact ⟨rfl, rfl⟩
  | ok c =>
      obtain ⟨hresult, htree⟩ := save_of_sole hname hup hsole (c.update (.ofFindings source fs))
      simp only
      generalize save t path (c.update (.ofFindings source fs)) = linked at hresult htree ⊢
      generalize save t.tree path (c.update (.ofFindings source fs)) = plain at hresult htree ⊢
      obtain ⟨result, linked⟩ := linked
      obtain ⟨result', tree⟩ := plain
      obtain rfl : result = result' := hresult
      obtain rfl : linked.tree = tree := htree
      cases result with
      | error fault => exact ⟨rfl, rfl⟩
      | ok => exact ⟨rfl, rfl⟩

end Links

/-! ## Atomicity -/

/-- Saving to a path that ends in a name and goes nowhere upwards is atomic, for a catalog as well
as for the findings of a crawl, whatever stands in the tree and whatever becomes of what is put
there. If it fails, what stood at the place of the file still stands there, be it a file, a
directory or nothing. If it succeeds, the file holds the written catalog, which ends with a line
break, and the draft is gone. Nothing else changes either way, but that missing directories on the
way may have been made. The draft never is the file. All of this also holds if files have several
names, as long as the draft is not one of them. -/
theorem save_atomic {path name : String} (hname : Path.fileName? path = some name)
    (hup : ".." ∉ Path.parts path) (t : FileTree) :
    draftPath path ≠ path ∧
      Path.steps (draftPath path) =
        (Path.steps path).dropLast ++ [Path.stem name ++ "." ++ "json.tmp"] ∧
      Path.steps (draftPath path) ≠ Path.steps path ∧
      (∀ c : Catalog, DiffersAtMost t (save t path c).2 path ∧
        (∀ fault, (save t path c).1 = .error fault →
          entry? (save t path c).2 (Path.steps path) = t.entry? (Path.steps path)) ∧
        ((save t path c).1 = .ok () →
          Stands (save t path c).2 path (c.toJson.indented ++ "\n"))) ∧
      (∀ source fs, DiffersAtMost t (saveFindings t path source fs).2 path ∧
        (∀ fault, (saveFindings t path source fs).1 = .error fault →
          entry? (saveFindings t path source fs).2 (Path.steps path) =
            t.entry? (Path.steps path)) ∧
        ∀ count, (saveFindings t path source fs).1 = .ok count →
          ∃ c, load t path = .ok c ∧ Stands (saveFindings t path source fs).2 path
            ((c.update (.ofFindings source fs)).toJson.indented ++ "\n")) ∧
      ∀ links : List (List Place), (∀ names ∈ links, Path.steps (draftPath path) ∉ names) →
        (∀ c : Catalog, (save (LinkedTree.mk t links) path c).1 = (save t path c).1 ∧
          (save (LinkedTree.mk t links) path c).2.tree = (save t path c).2) ∧
        ∀ source fs, (saveFindings (LinkedTree.mk t links) path source fs).1 =
            (saveFindings t path source fs).1 ∧
          (saveFindings (LinkedTree.mk t links) path source fs).2.tree =
            (saveFindings t path source fs).2 := by
  refine ⟨draftPath_ne hname, Path.steps_withExtension hname, steps_draftPath_ne hname, ?_, ?_,
    fun links hsole => ⟨save_of_sole hname hup hsole, saveFindings_of_sole hname hup hsole⟩⟩
  · intro c
    exact ⟨differsAtMost_save hname hup t c, fun fault h => entry?_save_of_error hname hup h,
      stands_save_of_ok hname hup⟩
  · intro source fs
    obtain ⟨fault, -, hfailed⟩ | ⟨c, hload, htree, hresult⟩ := saveFindings_cases t path source fs
    · rw [hfailed]
      exact ⟨fun _ _ _ => .inl rfl, fun _ _ => rfl, nofun⟩
    · rw [htree, hresult]
      refine ⟨differsAtMost_save hname hup t _, ?_, ?_⟩
      · intro fault h
        cases hsave : (save t path (c.update (.ofFindings source fs))).1 with
        | error fault => exact entry?_save_of_error hname hup hsave
        | ok =>
            rw [hsave] at h
            cases h
      · intro count h
        cases hsave : (save t path (c.update (.ofFindings source fs))).1 with
        | error fault =>
            rw [hsave] at h
            cases h
        | ok => exact ⟨c, hload, stands_save_of_ok hname hup hsave⟩

/-- A results file in a directory, beside what an earlier attempt left of its draft. -/
def staleDraft : FileTree where
  entries := [(["out"], .directory), (["out", "r.json.tmp"], .file "stale".toUTF8)]

/-- A results file on a disk with room for three bytes. -/
def fullDisk : FileTree where
  entries := [(["r.json"], .file "\x7b\x7d".toUTF8)]
  fate := fun _ => .cut 3

/-- An old draft is written anew and moved away. A draft that is cut short is left behind, and the
file is as it was; written in place it would have been cut short itself. -/
theorem save_atomic_staleDraft :
    (Path.fileName? "out/r.json" = some "r.json" ∧ ".." ∉ Path.parts "out/r.json" ∧
      (saveFindings staleDraft "out/r.json" "shop" {}).1 = .ok 0 ∧
      DiffersAtMost staleDraft (saveFindings staleDraft "out/r.json" "shop" {}).2 "out/r.json" ∧
      ∃ c, load staleDraft "out/r.json" = .ok c ∧
        Stands (saveFindings staleDraft "out/r.json" "shop" {}).2 "out/r.json"
          ((c.update (.ofFindings "shop" {})).toJson.indented ++ "\n")) ∧
    Path.fileName? "r.json" = some "r.json" ∧ ".." ∉ Path.parts "r.json" ∧
      (saveFindings fullDisk "r.json" "shop" {}).1 = .error (.file .noSpace) ∧
      (saveFindings fullDisk "r.json" "shop" {}).2.readText "r.json.tmp" = .ok "\x7b\n " ∧
      entry? (saveFindings fullDisk "r.json" "shop" {}).2 (Path.steps "r.json") =
        fullDisk.entry? (Path.steps "r.json") ∧
      (fullDisk.write "r.json" (text {}).toUTF8).2.readText "r.json" = .ok "\x7b\n " := by
  have hname : Path.fileName? "out/r.json" = some "r.json" := by decide +kernel
  have hup : ".." ∉ Path.parts "out/r.json" := by decide +kernel
  have hsaved : (saveFindings staleDraft "out/r.json" "shop" {}).1 = .ok 0 := by decide +kernel
  obtain ⟨-, -, -, -, hfindings, -⟩ := save_atomic hname hup staleDraft
  obtain ⟨hdiffers, -, hok⟩ := hfindings "shop" {}
  refine ⟨⟨hname, hup, hsaved, hdiffers, hok 0 hsaved⟩, ?_⟩
  have hname : Path.fileName? "r.json" = some "r.json" := by decide +kernel
  have hup : ".." ∉ Path.parts "r.json" := by decide +kernel
  have hfull : (saveFindings fullDisk "r.json" "shop" {}).1 = .error (.file .noSpace) := by
    decide +kernel
  obtain ⟨-, -, -, -, hfindings, -⟩ := save_atomic hname hup fullDisk
  obtain ⟨-, hkept, -⟩ := hfindings "shop" {}
  exact ⟨hname, hup, hfull, by decide +kernel, hkept _ hfull, by decide +kernel⟩

/-- A file of notes, and the draft of a results file as another name of it. -/
def linkedDraft : LinkedTree where
  tree :=
    { entries := [(["notes.txt"], .file "notes".toUTF8), (["r.json.tmp"], .file "notes".toUTF8)] }
  links := [[["notes.txt"], ["r.json.tmp"]]]

/-- An array that is nested so many levels deep. -/
def nested : Nat → Json
  | 0 => .array []
  | n + 1 => .array [nested n]

/-- A catalog that keeps a member which is nested too deeply to be read. -/
def deepCatalog : Catalog where
  listings := [{ name := "old" }]
  others := [("rate", nested 129)]

theorem load_resultsFile_of_malformed {s : String} (h : ofText s = .error .malformed) :
    load (resultsFile s) "r.json" = .ok {} := by
  have hplace : (resultsFile s).follow "r.json" = .ok ["r.json"] := by rfl
  have hread : (resultsFile s).read "r.json" = .ok s.toUTF8 :=
    read_eq_ok.2 ⟨["r.json"], hplace, rfl⟩
  rw [load, if_pos (holds_of_read hread), readText_of_read hread]
  simp only [h]

theorem ofText_text_of_malformed {c : Catalog}
    (h : (match (Json.Tree.ofJson c.toJson).read Json.nestingLimit shape with
      | .error .malformed => true
      | _ => false) = true) : ofText c.text = .error .malformed := by
  rw [ofText, Json.readAs_eq c.tokens_text]
  split at h
  · next hmalformed => rw [hmalformed]
  · cases h

theorem load_deepCatalog : load (resultsFile deepCatalog.text) "r.json" = .ok {} :=
  load_resultsFile_of_malformed (ofText_text_of_malformed (by decide +kernel))

theorem saveFindings_deepCatalog :
    (saveFindings (resultsFile deepCatalog.text) "r.json" "new" {}).1 = .ok 0 ∧
      (saveFindings (resultsFile deepCatalog.text) "r.json" "new" {}).2.readText "r.json" =
        .ok ({ listings := [{ name := "new" }] } : Catalog).text := by
  have hsave : (save (resultsFile deepCatalog.text) "r.json"
      (({} : Catalog).update (.ofFindings "new" {}))).1 = .ok () := by
    decide +kernel
  obtain ⟨fault, hfault, -⟩ | ⟨c, hload, htree, hresult⟩ :=
    saveFindings_cases (resultsFile deepCatalog.text) "r.json" "new" {}
  · exact nomatch load_deepCatalog.symm.trans hfault
  · obtain rfl := Except.ok.inj (load_deepCatalog.symm.trans hload)
    rw [htree, hresult, hsave]
    exact ⟨rfl, readText_of_read (read_save_of_ok hsave)⟩

/-- What is saved by way of a draft that is another name of a file is written to that file as well.
And what is saved is merged into the catalog that is read, which is empty if the text of a catalog
is nested too deeply. -/
theorem not_save_atomic_linkedDraft :
    Path.fileName? "r.json" = some "r.json" ∧ ".." ∉ Path.parts "r.json" ∧
    ((saveFindings linkedDraft "r.json" "shop" {}).1 = .ok 0 ∧
      linkedDraft.tree.readText "notes.txt" = .ok "notes" ∧
      (saveFindings linkedDraft "r.json" "shop" {}).2.tree.readText "notes.txt" =
        (saveFindings linkedDraft "r.json" "shop" {}).2.tree.readText "r.json" ∧
      ¬DiffersAtMost linkedDraft.tree (saveFindings linkedDraft "r.json" "shop" {}).2.tree
        "r.json") ∧
    (saveFindings (resultsFile deepCatalog.text) "r.json" "new" {}).1 = .ok 0 ∧
      (saveFindings (resultsFile deepCatalog.text) "r.json" "new" {}).2.readText "r.json" ≠
        .ok (deepCatalog.update (.ofFindings "new" {})).text := by
  have hname : Path.fileName? "r.json" = some "r.json" := by decide +kernel
  have hup : ".." ∉ Path.parts "r.json" := by decide +kernel
  have hsaved : (saveFindings linkedDraft "r.json" "shop" {}).1 = .ok 0 := by decide +kernel
  have hnotes : linkedDraft.tree.readText "notes.txt" = .ok "notes" := by decide +kernel
  have hboth : (saveFindings linkedDraft "r.json" "shop" {}).2.tree.readText "notes.txt" =
      (saveFindings linkedDraft "r.json" "shop" {}).2.tree.readText "r.json" := by
    decide +kernel
  have hfollow : (saveFindings linkedDraft "r.json" "shop" {}).2.tree.follow "notes.txt" =
      .ok ["notes.txt"] := by
    decide +kernel
  have hchanged : (saveFindings linkedDraft "r.json" "shop" {}).2.tree.readText "notes.txt" ≠
      .ok "notes" := by
    decide +kernel
  obtain ⟨hmerged, htext⟩ := saveFindings_deepCatalog
  refine ⟨hname, hup, ⟨hsaved, hnotes, hboth, fun hdiffers => ?_⟩, hmerged, ?_⟩
  · rcases hdiffers ["notes.txt"] (by decide +kernel) (by decide +kernel) with hsame | ⟨hnone, -⟩
    · have hread : (saveFindings linkedDraft "r.json" "shop" {}).2.tree.read "notes.txt" =
          .ok "notes".toUTF8 :=
        read_eq_ok.2 ⟨["notes.txt"], hfollow, hsame⟩
      exact hchanged (readText_of_read hread)
    · exact nomatch hnone
  · -- the tokens of the two texts part at the name of the first source
    rw [htext]
    intro hsame
    have htokens := congrArg Json.tokens (Except.ok.inj hsame)
    rw [tokens_text, tokens_text] at htokens
    exact absurd htokens (by decide +kernel)

end Prospector.Catalog
