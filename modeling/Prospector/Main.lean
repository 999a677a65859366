import Prospector.CommandLine.Program

/-!
# The command line

Reads the files that a command is about, performs it and writes the files that have changed. Without
a network no server can be connected to.
-/

namespace Prospector.Main

/-- The tree with the file at a path, if there is one. -/
def load (t : FileTree) (path : String) : IO FileTree := do
  try
    let content ← IO.FS.readBinFile path
    return ((t.createDirectories (Path.parent path)).2.write path content).2
  catch
    | .noFileOrDirectory .. => return t
    | _ => return (t.createDirectories path).2

/-- Writes a file beside its place and puts it there. -/
def store (path : String) (content : ByteArray) : IO Unit := do
  let directory := Path.parent path
  unless directory.isEmpty do IO.FS.createDirAll directory
  IO.FS.writeBinFile (Catalog.draftPath path) content
  IO.FS.rename (Catalog.draftPath path) path

/-- Writes the file at a path if it has changed. -/
def update (before after : FileTree) (path : String) : IO Unit := do
  match before.read path, after.read path with
  | .ok old, .ok new => if old != new then store path new
  | .error _, .ok new => store path new
  | _, .error _ => return

end Prospector.Main

/-- The program. -/
def main (arguments : List String) : IO UInt32 := do
  let known ← (Prospector.CommandLine.paths arguments {}).foldlM Prospector.Main.load {}
  let paths := Prospector.CommandLine.paths arguments known
  let known ← paths.foldlM Prospector.Main.load {}
  let completion := Prospector.CommandLine.execute arguments known .offline
  paths.forM (Prospector.Main.update known completion.files)
  (← IO.getStdout).putStr completion.output
  (← IO.getStderr).putStr completion.errors
  return completion.exitCode.toUInt32
