import Prospector.Catalog.Text
import Prospector.Files.Tree

/-!
# The results file

A catalog in a file. A catalog is written beside its file and then put in place, so the file holds
either what it held before or all of the new catalog. A file that holds no JSON at all counts as an
empty catalog; one that holds JSON of another shape is left alone.

## Main definitions

* `Catalog.load`, `Catalog.save` : a catalog from and to a file.
* `Catalog.saveFindings` : the products of a crawl merged into the catalog of a file.
-/

namespace Prospector

/-- Why a results file could not be read or written. -/
inductive StoreFault where
  | file (fault : FileFault)
  | shape
  deriving Repr, DecidableEq, Inhabited

/-- What is said about a results file that could not be read. -/
def StoreFault.message : StoreFault → String
  | .file fault => "IO error: " ++ fault.message
  | .shape => "Serialization error: "

namespace Catalog

/-- The catalog in a file, the empty one if there is none. -/
def load (t : FileTree) (path : String) : Except StoreFault Catalog :=
  if t.holds path then
    match t.readText path with
    | .error fault => .error (.file fault)
    | .ok s =>
      match ofText s with
      | .ok c => .ok c
      | .error .malformed => .ok {}
      | .error .mismatch => .error .shape
  else .ok {}

/-- The file that a catalog is written to before it is put in place. -/
def draftPath (path : String) : String :=
  Path.withExtension path "json.tmp"

section Save

variable {σ : Type} [FileSystem σ]

/-- Writes a catalog to a file, by way of another one beside it. -/
def save (t : σ) (path : String) (c : Catalog) : Except StoreFault Unit × σ :=
  match FileSystem.createDirectories t (Path.parent path) with
  | (.error fault, t) => (.error (.file fault), t)
  | (.ok (), t) =>
    match FileSystem.write t (draftPath path) c.text.toUTF8 with
    | (.error fault, t) => (.error (.file fault), t)
    | (.ok (), t) =>
      match FileSystem.rename t (draftPath path) path with
      | (.error fault, t) => (.error (.file fault), t)
      | (.ok (), t) => (.ok (), t)

/-- Merges the products among findings into the catalog of a file: how many there are, and the files
then. -/
def saveFindings (t : σ) (path name : String) (fs : Findings) : Except StoreFault Nat × σ :=
  let listing := Listing.ofFindings name fs
  match load (FileSystem.tree t) path with
  | .error fault => (.error fault, t)
  | .ok c =>
    match save t path (c.update listing) with
    | (.error fault, t) => (.error fault, t)
    | (.ok (), t) => (.ok listing.products.length, t)

end Save

end Catalog

end Prospector
