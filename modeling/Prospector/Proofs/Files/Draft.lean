import Mathlib.Data.List.TakeWhile
import Prospector.Proofs.Files.Tree

/-!
# The file beside a file

A catalog is written to a draft beside its file: to the path with another extension. The path of the
draft takes the same steps as the path of the file but for the last one, whatever parts of the paths
stay where they are; the extension has a dot in it, so no file is its own draft.

## Main results

* `Path.steps_withExtension`, `Path.steps_parent` : the steps that a path with another extension
  takes, and those that the path of its directory takes.
* `FileTree.follow_withExtension` : a path with another extension does not lead to the file.
-/

namespace Prospector

namespace Path

/-! ## Names -/

theorem toList_stem_of_append {name : String} {front : List Char}
    (h : name.toList = front ++ ['.', 'j', 's', 'o', 'n', '.', 't', 'm', 'p']) :
    (stem name).toList = front ++ ['.', 'j', 's', 'o', 'n'] := by
  have hbehind : (name.toList.reverse.takeWhile (· != '.')).length = 3 := by
    rw [h, List.reverse_append]
    rfl
  have hlength : name.toList.length = front.length + 9 := by
    rw [h, List.length_append]
    rfl
  have hkept : front.length + 9 - 3 - 1 = (front ++ ['.', 'j', 's', 'o', 'n']).length := by
    rw [List.length_append]
    rfl
  have hparts : front ++ ['.', 'j', 's', 'o', 'n', '.', 't', 'm', 'p'] =
      (front ++ ['.', 'j', 's', 'o', 'n']) ++ ['.', 't', 'm', 'p'] := by
    rw [List.append_assoc]
    rfl
  simp only [stem, hbehind, hlength]
  rw [if_pos (by omega), String.toList_ofList, h, hkept, hparts, List.take_left]

/-- A name with the extension `json.tmp` in place of its own is another name. -/
theorem stem_append_ne (name : String) : stem name ++ "." ++ "json.tmp" ≠ name := by
  intro h
  have hchars : name.toList = (stem name).toList ++
      ['.', 'j', 's', 'o', 'n', '.', 't', 'm', 'p'] := by
    rw [← congrArg String.toList h, String.toList_append, String.toList_append, List.append_assoc]
    rfl
  have hlength := congrArg List.length (toList_stem_of_append hchars)
  rw [List.length_append] at hlength
  simp only [List.length_cons, List.length_nil] at hlength
  omega

/-- A name with the extension `json.tmp` leads into a directory. -/
theorem stem_append_moves (name : String) :
    stem name ++ "." ++ "json.tmp" ≠ "" ∧ stem name ++ "." ++ "json.tmp" ≠ "." ∧
      stem name ++ "." ++ "json.tmp" ≠ ".." := by
  have hlong : 8 ≤ (stem name ++ "." ++ "json.tmp").toList.length := by
    rw [String.toList_append, List.length_append]
    exact Nat.le_add_left 8 _
  refine ⟨?_, ?_, ?_⟩ <;>
  · intro h
    rw [h] at hlong
    exact absurd hlong (by decide)

theorem mem_of_mem_stem {name : String} {c : Char} (h : c ∈ (stem name).toList) :
    c ∈ name.toList := by
  simp only [stem] at h
  split at h
  · rw [String.toList_ofList] at h
    exact List.mem_of_mem_take h
  · exact h

theorem slashless_of_mem_parts {path part : String} (h : part ∈ parts path) :
    '/' ∉ part.toList := by
  obtain ⟨piece, hpiece, rfl⟩ := List.mem_map.1 h
  rw [String.toList_ofList]
  exact fun hmem => (Text.mem_of_mem_splitAtChar hpiece hmem).2 rfl

theorem parts_ne_nil (path : String) : parts path ≠ [] :=
  mt List.map_eq_nil_iff.1 (Text.splitAtChar_ne_nil '/' path.toList)

/-- Parts put together are cut apart again. -/
theorem parts_ofParts {ps : List String} (hne : ps ≠ []) (h : ∀ p ∈ ps, '/' ∉ p.toList) :
    parts (ofParts ps) = ps := by
  have htext : (ofParts ps).toList = ['/'].intercalate (ps.map String.toList) :=
    String.toList_intercalate
  have hslashless : ∀ piece ∈ ps.map String.toList, '/' ∉ piece := by
    intro piece hpiece
    obtain ⟨p, hp, rfl⟩ := List.mem_map.1 hpiece
    exact h p hp
  rw [parts, htext, Text.splitAtChar_eq_splitOn,
    List.splitOn_intercalate '/' hslashless (mt List.map_eq_nil_iff.1 hne), List.map_map]
  exact (List.map_congr_left fun p _ => String.ofList_toList).trans (List.map_id ps)

theorem parts_root_append (path : String) (rest : String) :
    parts (root path ++ rest) = parts rest ∨ parts (root path ++ rest) = "" :: parts rest := by
  unfold root
  split
  · right
    rw [parts, parts, String.toList_append]
    rfl
  · left
    rw [String.empty_append]

/-- A path whose last part is a name leads to this name. -/
theorem fileName?_of_parts {path : String} {front : List String} {last : String}
    (h : parts path = front ++ [last]) (hlast : last ≠ "" ∧ last ≠ "." ∧ last ≠ "..") :
    fileName? path = some last ∧
      (steps path).dropLast = front.filter fun s => s != "" && s != "." := by
  have hsteps : steps path = (front.filter fun s => s != "" && s != ".") ++ [last] := by
    rw [steps, h, List.filter_append, List.filter_cons_of_pos (by simp [hlast]), List.filter_nil]
  constructor
  · rw [fileName?, hsteps, List.getLast?_concat]
    exact if_pos (by simp [hlast])
  · rw [hsteps, List.dropLast_concat]

/-- The parts of a path with another extension are its steps, but for the last one, and perhaps the
root. -/
theorem parts_withExtension {path last : String} (h : fileName? path = some last) :
    parts (withExtension path "json.tmp") =
        (steps path).dropLast ++ [stem last ++ "." ++ "json.tmp"] ∨
      parts (withExtension path "json.tmp") =
        "" :: ((steps path).dropLast ++ [stem last ++ "." ++ "json.tmp"]) := by
  have hlast : last ∈ parts path := by
    obtain ⟨hmem, -⟩ := Option.filter_eq_some_iff.1 h
    exact (List.mem_filter.1 (List.mem_of_getLast? hmem)).1
  have hslashless : ∀ p ∈ (steps path).dropLast ++ [stem last ++ "." ++ "json.tmp"],
      '/' ∉ p.toList := by
    intro p hp
    rcases List.mem_append.1 hp with hp | hp
    · exact slashless_of_mem_parts (List.mem_filter.1 ((List.dropLast_sublist _).subset hp)).1
    · obtain rfl := List.mem_singleton.1 hp
      rw [String.toList_append, String.toList_append, List.mem_append, List.mem_append]
      rintro ((hstem | hdot) | hextension)
      · exact slashless_of_mem_parts hlast (mem_of_mem_stem hstem)
      · exact absurd hdot (by decide)
      · exact absurd hextension (by decide)
  have hparts := parts_ofParts (List.append_ne_nil_of_right_ne_nil _ (List.cons_ne_nil _ _))
    hslashless
  rw [withExtension, h]
  rcases parts_root_append path
    (ofParts ((steps path).dropLast ++ [stem last ++ "." ++ "json.tmp"])) with hroot | hroot
  · exact .inl (hroot.trans hparts)
  · exact .inr (hroot.trans (congrArg ("" :: ·) hparts))

/-- A path with another extension takes the same steps but for the last one. -/
theorem steps_withExtension {path last : String} (h : fileName? path = some last) :
    steps (withExtension path "json.tmp") =
      (steps path).dropLast ++ [stem last ++ "." ++ "json.tmp"] := by
  have hkept : ((steps path).dropLast ++ [stem last ++ "." ++ "json.tmp"]).filter
      (fun s => s != "" && s != ".") =
      (steps path).dropLast ++ [stem last ++ "." ++ "json.tmp"] := by
    obtain ⟨hempty, hdot, -⟩ := stem_append_moves last
    have hfront : (steps path).dropLast.filter (fun s => s != "" && s != ".") =
        (steps path).dropLast :=
      List.filter_eq_self.2 fun p hp =>
        (List.mem_filter.1 ((List.dropLast_sublist _).subset hp)).2
    rw [List.filter_append, hfront, List.filter_cons_of_pos (by simp [hempty, hdot]),
      List.filter_nil]
  unfold steps at hkept ⊢
  rcases parts_withExtension h with hparts | hparts
  · rw [hparts]
    exact hkept
  · rw [hparts, List.filter_cons_of_neg (by decide)]
    exact hkept

/-! ## The directory of a path -/

theorem filter_dropWhile_trimmed (rest : List String) :
    ((rest.reverse.dropWhile fun s => s == "" || s == ".").reverse).filter
        (fun s => s != "" && s != ".") = rest.filter fun s => s != "" && s != "." := by
  have hsplit := List.takeWhile_append_dropWhile (p := fun s => s == "" || s == ".")
    (l := rest.reverse)
  have hstays : ((rest.reverse.takeWhile fun s => s == "" || s == ".").reverse).filter
      (fun s => s != "" && s != ".") = [] := by
    rw [List.filter_eq_nil_iff]
    intro s hs
    have hstay := List.mem_takeWhile_imp (List.mem_reverse.1 hs)
    simp only [Bool.or_eq_true, beq_iff_eq] at hstay
    rcases hstay with rfl | rfl <;> decide
  have hrest := congrArg List.reverse hsplit
  rw [List.reverse_append, List.reverse_reverse] at hrest
  conv_rhs => rw [← hrest, List.filter_append, hstays, List.append_nil]

theorem filter_trimParts (ps : List String) :
    (trimParts ps).filter (fun s => s != "" && s != ".") =
      ps.filter fun s => s != "" && s != "." := by
  cases ps with
  | nil => rfl
  | cons first rest => simp only [trimParts, List.filter_cons, filter_dropWhile_trimmed]

theorem mem_of_mem_trimParts {ps : List String} {p : String} (h : p ∈ trimParts ps) : p ∈ ps := by
  cases ps with
  | nil => exact h
  | cons first rest =>
      rcases List.mem_cons.1 h with rfl | h
      · exact List.mem_cons_self
      · exact List.mem_cons_of_mem first
          (List.mem_reverse.1 ((List.dropWhile_sublist _).subset (List.mem_reverse.1 h)))

/-- Once parts at the end that stay where they are have gone, the last part is the last step. -/
theorem filter_dropLast_trimParts (ps : List String) :
    (trimParts ps).dropLast.filter (fun s => s != "" && s != ".") =
      (ps.filter fun s => s != "" && s != ".").dropLast := by
  rw [← filter_trimParts ps]
  cases ps with
  | nil => rfl
  | cons first rest =>
      rw [trimParts]
      cases hrest : rest.reverse.dropWhile fun s => s == "" || s == "." with
      | nil =>
          rw [List.reverse_nil, List.dropLast_singleton, List.filter_cons]
          split <;> rfl
      | cons last front =>
          have hlast : (last != "" && last != ".") = true := by
            have hhead := List.head?_dropWhile_not (fun s => s == "" || s == ".") rest.reverse
            rw [hrest] at hhead
            simpa using hhead
          have hkept : [last].filter (fun s => s != "" && s != ".") = [last] :=
            List.filter_cons_of_pos hlast
          rw [List.reverse_cons, ← List.cons_append, List.dropLast_concat, List.filter_append,
            hkept, List.dropLast_concat]

/-- The path of the directory takes the same steps but for the last one. -/
theorem steps_parent (path : String) : steps (parent path) = (steps path).dropLast := by
  have hsteps : (trimParts (trimParts (parts path)).dropLast).filter
      (fun s => s != "" && s != ".") = (steps path).dropLast := by
    rw [filter_trimParts, filter_dropLast_trimParts, steps]
  have hslashless : ∀ p ∈ trimParts (trimParts (parts path)).dropLast, '/' ∉ p.toList := by
    intro p hp
    have hmem := (List.dropLast_sublist _).subset (mem_of_mem_trimParts hp)
    exact slashless_of_mem_parts (mem_of_mem_trimParts hmem)
  rw [← hsteps, parent]
  split
  · next hroot =>
    rw [hroot]
    decide
  · by_cases hnil : trimParts (trimParts (parts path)).dropLast = []
    · rw [hnil]
      decide
    · rw [steps, parts_ofParts hnil hslashless]

/-- The path of the draft names another place than the path. -/
theorem steps_withExtension_ne {path last : String} (h : fileName? path = some last) :
    steps (withExtension path "json.tmp") ≠ steps path := by
  obtain ⟨hlast, -⟩ := Option.filter_eq_some_iff.1 h
  obtain ⟨front, hfront⟩ := List.getLast?_eq_some_iff.1 hlast
  rw [steps_withExtension h, hfront, List.dropLast_concat]
  intro hsame
  exact stem_append_ne last (List.singleton_inj.1 (List.append_cancel_left hsame))

end Path

namespace FileTree

variable {t : FileTree} {path : String} {place : Place}

/-- A path that does not lead to a directory leads through one to a name in it. -/
theorem exists_parts_of_not_directory (hplace : t.follow path = .ok place)
    (hfree : t.entry? place ≠ some .directory) :
    ∃ front last directory, Path.parts path = front ++ [last] ∧
      (last ≠ "" ∧ last ≠ "." ∧ last ≠ "..") ∧ front.foldlM t.step [] = .ok directory ∧
      place = directory ++ [last] := by
  obtain ⟨front, last, hparts⟩ : ∃ front last, Path.parts path = front ++ [last] :=
    ⟨_, _, (List.dropLast_concat_getLast (Path.parts_ne_nil path)).symm⟩
  have hfollow := follow_eq_ok hplace
  rw [hparts, List.foldlM_append] at hfollow
  obtain ⟨directory, hdirectory, hstep⟩ := bind_eq_ok.1 hfollow
  rw [List.foldlM_cons] at hstep
  obtain ⟨next, hnext, hend⟩ := bind_eq_ok.1 hstep
  obtain rfl : next = place := Except.ok.inj hend
  refine ⟨front, last, directory, hparts, ?_⟩
  obtain ⟨hentry, ⟨-, rfl⟩ | ⟨-, rfl⟩ | ⟨hlast, rfl⟩⟩ := step_eq_ok hnext
  · exact absurd hentry hfree
  · refine absurd ?_ hfree
    by_cases hsame : directory.dropLast = directory
    · rw [hsame, hentry]
    · have hroot : ∀ on : Place, on <+: [] → on ≠ [] → t.entry? on = some .directory :=
        fun on hon hne => absurd (List.prefix_nil.1 hon) hne
      exact entry?_of_isPrefix hroot hdirectory (List.dropLast_prefix directory) hsame
  · exact ⟨hlast, hdirectory, rfl⟩

/-- A path with another extension leads to another place than the path, if this is no directory. -/
theorem follow_withExtension (hplace : t.follow path = .ok place)
    (hfree : t.entry? place ≠ some .directory) {other : Place}
    (hother : t.follow (Path.withExtension path "json.tmp") = .ok other) : other ≠ place := by
  obtain ⟨front, last, directory, hparts, hlast, hdirectory, rfl⟩ :=
    exists_parts_of_not_directory hplace hfree
  obtain ⟨hempty, hdot, hup⟩ := Path.stem_append_moves last
  obtain ⟨hfileName, hfront⟩ := Path.fileName?_of_parts hparts hlast
  have hsteps := Path.steps_withExtension hfileName
  rw [hfront] at hsteps
  -- the two paths take the same steps but for the last ones
  have hpath := foldlM_step_filter (follow_eq_ok hother)
  rw [← Path.steps, hsteps, List.foldlM_append] at hpath
  obtain ⟨start, hstart, hdraft⟩ := bind_eq_ok.1 hpath
  obtain rfl := Except.ok.inj ((foldlM_step_filter hdirectory).symm.trans hstart)
  rw [List.foldlM_cons] at hdraft
  obtain ⟨next, hnext, hend⟩ := bind_eq_ok.1 hdraft
  obtain rfl : next = other := Except.ok.inj hend
  obtain ⟨-, ⟨hstay, -⟩ | ⟨hparent, -⟩ | ⟨-, rfl⟩⟩ := step_eq_ok hnext
  · exact absurd hstay (not_or.2 ⟨hempty, hdot⟩)
  · exact absurd hparent hup
  · intro h
    exact Path.stem_append_ne last (List.singleton_inj.1 (List.append_cancel_left h))

end FileTree

end Prospector
