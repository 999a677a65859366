import Prospector.Files.Path

/-!
# File trees

Files and directories below a root, and what programs do with them: read a file, make directories,
write a file and move one. A path is followed part by part; every part but the last has to lead
through a directory. A file stands at one place: there are no links.

Writing a file empties it first, and the space may run out before all of the content is written. A
file that is moved is not written again.

## Main definitions

* `FileTree` : what stands at which place, and what becomes of something that is put there.
* `FileTree.follow` : the place that a path leads to.
* `FileTree.read`, `FileTree.write`, `FileTree.createDirectories`, `FileTree.rename`.
* `FileFault` : why one of them failed.
* `FileSystem` : what saving a file by way of another one takes.
-/

namespace Prospector

/-- Why something could not be done to a file. -/
inductive FileFault where
  | notFound
  | permissionDenied
  | alreadyExists
  | notDirectory
  | isDirectory
  | busy
  | noSpace
  | nameTooLong
  | zeroInName
  | notText
  deriving Repr, DecidableEq, Inhabited

/-- What is said about a failure. -/
def FileFault.message : FileFault → String
  | .notFound => "No such file or directory (os error 2)"
  | .permissionDenied => "Permission denied (os error 13)"
  | .alreadyExists => "File exists (os error 17)"
  | .notDirectory => "Not a directory (os error 20)"
  | .isDirectory => "Is a directory (os error 21)"
  | .busy => "Device or resource busy (os error 16)"
  | .noSpace => "No space left on device (os error 28)"
  | .nameTooLong => "File name too long (os error 36)"
  | .zeroInName => "file name contained an unexpected NUL byte"
  | .notText => "stream did not contain valid UTF-8"

/-- A place below the root: the names on the way to it. -/
abbrev Place := List String

/-- What stands at a place. -/
inductive FileEntry where
  | file (content : ByteArray)
  | directory
  deriving Inhabited

/-- What becomes of something that is put at a place. -/
inductive Fate where
  /-- It gets there. -/
  | done
  /-- Nothing can be put there. -/
  | refused
  /-- A file that is written there is emptied, and the space runs out behind so many bytes. -/
  | cut (bytes : Nat)
  deriving DecidableEq, Repr, Inhabited

/-- The files and directories below a root, and what becomes of something that is put at a place. -/
structure FileTree where
  entries : List (Place × FileEntry) := []
  fate : Place → Fate := fun _ => .done
  deriving Inhabited

namespace FileTree

/-! ## Places -/

/-- What stands at a place; the root is a directory. -/
def entry? (t : FileTree) : Place → Option FileEntry
  | [] => some .directory
  | place => t.entries.lookup place

/-- A list of entries in which an entry stands at a place, at the end if the place was free. -/
def setEntry (place : Place) (entry : FileEntry) :
    List (Place × FileEntry) → List (Place × FileEntry)
  | [] => [(place, entry)]
  | (p, e) :: rest =>
    if p = place then (p, entry) :: rest else (p, e) :: setEntry place entry rest

/-- The tree with an entry at a place. -/
def set (t : FileTree) (place : Place) (entry : FileEntry) : FileTree :=
  { t with entries := setEntry place entry t.entries }

/-- A list of entries in which the one at a place stands at another place, instead of what stood
there. -/
def moveEntry (origin place : Place) :
    List (Place × FileEntry) → List (Place × FileEntry)
  | [] => []
  | (p, e) :: rest =>
    if p = place then moveEntry origin place rest
    else (if p = origin then place else p, e) :: moveEntry origin place rest

/-- The tree in which what stands at a place has been moved to another one. -/
def move (t : FileTree) (origin place : Place) : FileTree :=
  if origin = place then t else { t with entries := moveEntry origin place t.entries }

/-! ## Following paths -/

/-- The longest name that a file may have, in bytes. -/
def nameLimit : Nat := 255

/-- The longest path, in bytes. -/
def pathLimit : Nat := 4095

/-- One part of a path, from a place that has to be a directory. -/
def step (t : FileTree) (place : Place) (part : String) : Except FileFault Place :=
  match t.entry? place with
  | none => .error .notFound
  | some (.file _) => .error .notDirectory
  | some .directory =>
    if part = "" || part = "." then .ok place
    else if part = ".." then .ok place.dropLast
    else if nameLimit < part.utf8ByteSize then .error .nameTooLong
    else .ok (place ++ [part])

/-- The place that parts lead to. Nothing need stand there. -/
def followParts (t : FileTree) (parts : List String) : Except FileFault Place :=
  parts.foldlM (step t) []

/-- The place that a path leads to. Nothing need stand there. -/
def follow (t : FileTree) (path : String) : Except FileFault Place :=
  if path.isEmpty then .error .notFound
  else if path.toList.contains '\x00' then .error .zeroInName
  else if pathLimit < path.utf8ByteSize then .error .nameTooLong
  else t.followParts (Path.parts path)

/-- What a path leads to. -/
def find (t : FileTree) (path : String) : Except FileFault FileEntry := do
  match t.entry? (← t.follow path) with
  | some entry => .ok entry
  | none => .error .notFound

/-- Whether a path leads to something. -/
def holds (t : FileTree) (path : String) : Bool :=
  match t.find path with
  | .ok _ => true
  | .error _ => false

/-! ## Reading and writing -/

/-- The content of a file. -/
def read (t : FileTree) (path : String) : Except FileFault ByteArray := do
  match ← t.find path with
  | .file content => .ok content
  | .directory => .error .isDirectory

/-- The content of a file as text. -/
def readText (t : FileTree) (path : String) : Except FileFault String := do
  match String.fromUTF8? (← t.read path) with
  | some s => .ok s
  | none => .error .notText

/-- Writes a file where a path leads to. What was written before the space ran out stays. -/
def write (t : FileTree) (path : String) (content : ByteArray) : Except FileFault Unit × FileTree :=
  match t.follow path with
  | .error fault => (.error fault, t)
  | .ok place =>
    match t.entry? place, t.fate place with
    | some .directory, _ => (.error .isDirectory, t)
    | _, .refused => (.error .permissionDenied, t)
    | _, .cut bytes => (.error .noSpace, t.set place (.file (content.extract 0 bytes)))
    | _, .done => (.ok (), t.set place (.file content))

/-- The tree with directories where the starts of a path lead to, made from a place on. Those made
before a failure stay. -/
def createFrom (t : FileTree) (place : Place) : List String → Except FileFault Unit × FileTree
  | [] => (.ok (), t)
  | part :: parts =>
    match t.step place part with
    | .error fault => (.error fault, t)
    | .ok next =>
      match t.entry? next with
      | none =>
        if t.fate next = .refused then (.error .permissionDenied, t)
        else (t.set next .directory).createFrom next parts
      | some .directory => t.createFrom next parts
      | some (.file _) => (.error (if parts.isEmpty then .alreadyExists else .notDirectory), t)

/-- Makes the directories that a path leads through and to; none for the empty path. -/
def createDirectories (t : FileTree) (path : String) : Except FileFault Unit × FileTree :=
  if path.toList.contains '\x00' then (.error .zeroInName, t)
  else if pathLimit < path.utf8ByteSize then (.error .nameTooLong, t)
  else t.createFrom [] (Path.steps path)

/-- The place that a file can be moved to: the last part of the path has to be a name. -/
def target (t : FileTree) (path : String) : Except FileFault Place := do
  let place ← t.follow path
  match (Path.parts path).getLast? with
  | some "." | some ".." => .error .busy
  | some "" => .error .notDirectory
  | _ =>
    if t.fate place = .refused then .error .permissionDenied
    else
      match t.entry? place with
      | some .directory => .error .isDirectory
      | _ => .ok place

/-- The places that a file is moved from and to. -/
def route (t : FileTree) (source destination : String) : Except FileFault (Place × Place) := do
  let origin ← t.follow source
  let _ ← t.read source
  let place ← t.target destination
  .ok (origin, place)

/-- Moves a file to where another path leads. -/
def rename (t : FileTree) (source destination : String) : Except FileFault Unit × FileTree :=
  match t.route source destination with
  | .error fault => (.error fault, t)
  | .ok (origin, place) => (.ok (), t.move origin place)

end FileTree

/-! ## File systems -/

/-- What saving a file by way of another one takes: what stands where, and the three things that are
done, each of which may fail. -/
class FileSystem (σ : Type) where
  tree : σ → FileTree
  createDirectories : σ → String → Except FileFault Unit × σ
  write : σ → String → ByteArray → Except FileFault Unit × σ
  rename : σ → String → String → Except FileFault Unit × σ

instance : FileSystem FileTree where
  tree := fun t => t
  createDirectories := FileTree.createDirectories
  write := FileTree.write
  rename := FileTree.rename

end Prospector
