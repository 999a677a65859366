import Prospector.Text.Occurrence

/-!
# Paths

A path as the parts between its slashes, and the paths next to it: the directory that a file is in
and the file that is written before it is put in place.
-/

namespace Prospector.Path

/-- The parts of a path between its slashes. -/
def parts (path : String) : List String :=
  (Text.splitAtChar '/' path.toList).map String.ofList

/-- The parts of a path that lead somewhere: empty ones and `.` stay where they are. -/
def steps (path : String) : List String :=
  (parts path).filter fun s => s != "" && s != "."

/-- The name of the file that a path leads to, if it ends in a name. -/
def fileName? (path : String) : Option String :=
  (steps path).getLast?.filter fun s => s != ".."

/-- A path put together from its parts. -/
def ofParts (parts : List String) : String :=
  "/".intercalate parts

/-- Parts without those at their end that stay where they are; the first part is kept. -/
def trimParts : List String → List String
  | [] => []
  | first :: rest =>
    first :: (rest.reverse.dropWhile fun s => s == "" || s == ".").reverse

/-- The path of the directory that a path leads into: the path without its last part. For a path of
one part it is empty. -/
def parent (path : String) : String :=
  match trimParts (trimParts (parts path)).dropLast with
  | [""] => "/"
  | kept => ofParts kept

/-- A file name without its extension, which begins at the last dot unless the name begins
there. -/
def stem (name : String) : String :=
  let cs := name.toList
  let behind := (cs.reverse.takeWhile (· != '.')).length
  if behind + 1 < cs.length then String.ofList (cs.take (cs.length - behind - 1)) else name

/-- The slash at the beginning of a path, if there is one. -/
def root (path : String) : String :=
  if path.startsWith "/" then "/" else ""

/-- The path with the extension of its file name replaced; a path that ends in no name stays. -/
def withExtension (path extension : String) : String :=
  match fileName? path with
  | some name => root path ++ ofParts ((steps path).dropLast ++ [stem name ++ "." ++ extension])
  | none => path

/-- A path leads from a directory to a place below it; an absolute one stays as it is. -/
def join (directory path : String) : String :=
  if path.startsWith "/" || directory.isEmpty then path
  else if directory.endsWith "/" then directory ++ path
  else directory ++ "/" ++ path

end Prospector.Path
