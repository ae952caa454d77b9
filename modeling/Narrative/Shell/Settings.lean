import Narrative.Data.Toml.Document
import Narrative.Menu.Style
import Narrative.Play.Settings
import Narrative.Script.Policy
import Narrative.Shell.FileTree
import Narrative.Text.Utf8

/-!
The settings file: sections for the check, for the player and for menus. The file that is named counts;
else the one with the usual name, if there is one.
-/
namespace Narrative

/-- All settings. -/
structure Settings where
  policy : Policy := {}
  play : PlaySettings := {}
  menu : MenuStyle := {}

/-- Why there are no settings. -/
inductive SettingsFault where
  | unreadable (path : String)
  | invalid (path : String)
  deriving DecidableEq

/-- The fault in words. -/
def SettingsFault.message : SettingsFault → String
  | unreadable path => "cannot read " ++ path
  | invalid path => "invalid configuration in " ++ path

namespace Settings

/-- The settings that the table of a settings file describes; missing keys keep their defaults. -/
def ofValue? (value : Value) : Option Settings := do
  let entries ← value.record? ["validator", "runtime", "menu"]
  let policy ← Value.fieldOr entries "validator" {} (Policy.ofValue? Toml.isNothing)
  let play ← Value.fieldOr entries "runtime" {} PlaySettings.ofValue?
  let menu ← Value.fieldOr entries "menu" {} MenuStyle.ofValue?
  pure { policy, play, menu }

/-- The usual name of the settings file. -/
def usualFile : String := "vessel.toml"

/-- The settings in the file at a path. -/
def ofFile (disk : Disk) (path : String) : Except SettingsFault Settings :=
  match disk.read path with
  | .error _ => .error (.unreadable path)
  | .ok bytes =>
    match Text.decode bytes with
    | .error _ => .error (.unreadable path)
    | .ok document =>
      match (Toml.read? document).bind ofValue? with
      | some settings => .ok settings
      | none => .error (.invalid path)

/-- The settings in the named file, or in the usual one if it exists, or the default ones. -/
def load (disk : Disk) (named : Option String) : Except SettingsFault Settings :=
  match named, disk usualFile with
  | some path, _ => ofFile disk path
  | none, .ok _ => ofFile disk usualFile
  | none, .error _ => .ok {}

end Settings
end Narrative
