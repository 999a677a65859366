import Prospector.Files.Tree

/-!
# Files with several names

File trees in which a file may stand at several places at once. What is written to such a file is
found at all of its places. A file that is moved leaves one of its places for another one and keeps
the rest, and a file that stands at the other place already stays where it is.

## Main definitions

* `LinkedTree` : a file tree and the files in it with several places.
* `LinkedTree.write`, `LinkedTree.createDirectories`, `LinkedTree.rename`.
-/

namespace Prospector

/-- A file tree in which files may stand at several places. -/
structure LinkedTree where
  tree : FileTree
  /-- The places of each file that stands at several. -/
  links : List (List Place) := []
  deriving Inhabited

namespace LinkedTree

/-- The places of the file at a place, if there are several. -/
def names (t : LinkedTree) (place : Place) : List Place :=
  (t.links.find? fun names => names.contains place).getD []

/-- Writes a file where a path leads to. -/
def write (t : LinkedTree) (path : String) (content : ByteArray) :
    Except FileFault Unit × LinkedTree :=
  match t.tree.follow path with
  | .error fault => (.error fault, t)
  | .ok place =>
    let (result, tree) := t.tree.write path content
    match tree.entry? place with
    | some (.file written) =>
      (result, { t with tree := (t.names place).foldl (·.set · (.file written)) tree })
    | _ => (result, { t with tree })

/-- Makes the directories that a path leads through and to. -/
def createDirectories (t : LinkedTree) (path : String) : Except FileFault Unit × LinkedTree :=
  let (result, tree) := t.tree.createDirectories path
  (result, { t with tree })

/-- Moves a file to where another path leads. -/
def rename (t : LinkedTree) (source destination : String) : Except FileFault Unit × LinkedTree :=
  match t.tree.route source destination with
  | .error fault => (.error fault, t)
  | .ok (origin, place) =>
    if (t.names origin).contains place then (.ok (), t)
    else
      (.ok (), { tree := t.tree.move origin place
                 links := t.links.map fun names =>
                   (names.filter (· != place)).map fun p => if p = origin then place else p })

end LinkedTree

instance : FileSystem LinkedTree where
  tree := LinkedTree.tree
  createDirectories := LinkedTree.createDirectories
  write := LinkedTree.write
  rename := LinkedTree.rename

end Prospector
