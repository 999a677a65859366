import Prospector.Files.Links
import Prospector.Proofs.Files.Tree

/-!
# Files with one name among others

In a tree in which some files stand at several places, writing or moving a file that stands at one
place only does to the tree what it does in a tree without such files.

## Main results

* `LinkedTree.write_of_names_eq_nil`, `LinkedTree.exists_rename_of_names_eq_nil`.
-/

namespace Prospector.LinkedTree

variable {t : LinkedTree} {place : Place} {path : String}

theorem names_eq_nil (h : ∀ names ∈ t.links, place ∉ names) : t.names place = [] := by
  have hnone : (t.links.find? fun names => names.contains place) = none := by
    rw [List.find?_eq_none]
    intro names hnames hcontains
    exact h names hnames (List.contains_iff_mem.1 hcontains)
  rw [names, hnone, Option.getD_none]

theorem write_of_names_eq_nil (content : ByteArray)
    (h : ∀ place, t.tree.follow path = .ok place → t.names place = []) :
    t.write path content =
      ((t.tree.write path content).1, { t with tree := (t.tree.write path content).2 }) := by
  unfold write
  cases hplace : t.tree.follow path with
  | error fault =>
      have hwrite : t.tree.write path content = (.error fault, t.tree) := by
        unfold FileTree.write
        rw [hplace]
      rw [hwrite]
  | ok place =>
      simp only [h place hplace, List.foldl_nil]
      split <;> rfl

theorem exists_rename_of_names_eq_nil (destination : String)
    (h : ∀ place, t.tree.follow path = .ok place → t.names place = []) :
    ∃ links, t.rename path destination =
      ((t.tree.rename path destination).1, ⟨(t.tree.rename path destination).2, links⟩) := by
  unfold rename FileTree.rename
  cases hroute : t.tree.route path destination with
  | error fault => exact ⟨t.links, rfl⟩
  | ok places =>
      obtain ⟨origin, place⟩ := places
      obtain ⟨horigin, -⟩ := FileTree.route_eq_ok.1 hroute
      simp only [h origin horigin, List.contains_nil, Bool.false_eq_true, if_false]
      exact ⟨_, rfl⟩

end Prospector.LinkedTree
