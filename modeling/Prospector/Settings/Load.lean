import Prospector.Digest.Sha256
import Prospector.Files.Tree
import Prospector.Json.Reader
import Prospector.Settings.Reader
import Prospector.Settings.Validation
import Prospector.Toml.Document

/-!
# Settings from files

Settings are read from a TOML file. A source whose rule stands in a file of its own gets it from
there; the path of that file starts from the directory of the settings. Settings that are not valid
are refused.

## Main definitions

* `Settings.load` : the valid settings in a file, with the warnings about them.
* `Settings.digest` : the SHA-256 digest of a file of settings.
-/

namespace Prospector

/-- Why settings could not be loaded. -/
inductive SettingsFault where
  | file (fault : FileFault)
  /-- The file is not TOML, or a member is missing or of the wrong kind. -/
  | text
  /-- The file of a rule is not JSON. -/
  | rulesFile (path : String)
  | violation (v : Violation)
  deriving Repr, Inhabited

namespace SettingsFault

/-- What is said about settings that could not be loaded. -/
def message : SettingsFault → String
  | .file fault => "Failed to read config file: " ++ fault.message
  | .text => "Failed to parse TOML: "
  | .rulesFile path => "Failed to parse rules file " ++ path ++ ": "
  | .violation v => v.message

end SettingsFault

/-- The content of a file as text. -/
def readSettingsFile (t : FileTree) (path : String) : Except SettingsFault String :=
  (t.readText path).mapError .file

/-- The rule in a file. -/
def Rule.load (t : FileTree) (path : String) : Except SettingsFault Rule := do
  match Json.read? (← readSettingsFile t path) with
  | some j => .ok (Rule.ofJson j)
  | none => .error (.rulesFile path)

/-- A source with its rule taken from its file, if it has one. -/
def Source.resolve (t : FileTree) (directory : String) (s : Source) : Except SettingsFault Source :=
  match s.rulesFile with
  | none => .ok s
  | some file =>
    if s.rule.isSome then .error (.violation (.twoRules s.name))
    else do
      let rule ← Rule.load t (Path.join directory file)
      .ok { s with rule := some rule }

namespace Settings

/-- The settings that a text writes, rules in other files left out. -/
def ofText? (s : String) : Option Settings :=
  (Toml.read? s).bind fun v => ofJson? false v.toJson

/-- The settings in a file, with all rules, not validated. -/
def read (t : FileTree) (path : String) : Except SettingsFault Settings := do
  match ofText? (← readSettingsFile t path) with
  | none => .error .text
  | some s => do
    let sources ← s.sources.mapM (Source.resolve t (Path.parent path))
    .ok { s with sources }

/-- The valid settings in a file, with the warnings about them. -/
def load (t : FileTree) (path : String) : Except SettingsFault (Settings × List Warning) := do
  let s ← read t path
  let result := s.validate
  match result.violation with
  | some v => .error (.violation v)
  | none => .ok (s, result.warnings)

/-- The digest of a file of settings in hexadecimal digits. -/
def digest (t : FileTree) (path : String) : Except SettingsFault String := do
  let s ← readSettingsFile t path
  .ok (Sha256.hex s.toUTF8.toList)

end Settings

end Prospector
