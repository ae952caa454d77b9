import Narrative.Script.Check
import Narrative.Shell.FileTree
import Narrative.Text.Utf8

/-!
Scripts on a disk: one file at a path, a chapter's script in a library, and all the scripts in a folder.
-/
namespace Narrative

/-- Why a script cannot be loaded. -/
inductive LoadFault where
  | unreadable (path : String) (fault : ReadFault)
  | notText (name : String) (broken : Text.BrokenUtf8)
  /-- The check found errors. -/
  | rejected (name : String) (errors : Nat)
  deriving DecidableEq

/-- The fault in words. -/
def LoadFault.message : LoadFault → String
  | unreadable path fault => "cannot read " ++ path ++ ": " ++ fault.message
  | notText name broken => name ++ " is not valid UTF-8: " ++ broken.message
  | rejected name errors => name ++ " has " ++ toString errors ++ " error(s)"

namespace Script

/-- The extension of the files that hold scripts. -/
def fileExtension : String := "script"

/-- The script that bytes encode. -/
def ofBytes (name : String) (bytes : List UInt8) : Except LoadFault Script :=
  match Text.decode bytes with
  | .ok source => .ok (parse name source)
  | .error broken => .error (.notText name broken)

/-- The script at a path, under a name. -/
def ofFile (disk : Disk) (name path : String) : Except LoadFault Script :=
  match disk.read path with
  | .ok bytes => ofBytes name bytes
  | .error fault => .error (.unreadable path fault)

/-- The script, if the check finds no error. -/
def fit (policy : Policy) (script : Script) : Except LoadFault Script :=
  if script.accepted policy then .ok script
  else .error (.rejected script.name (script.check policy).errors.length)

end Script

/-- The scripts below the folder at a path. -/
def Disk.scripts (disk : Disk) (path : String) : Except LoadFault (List String) :=
  (disk.filesBelow (fun name => Path.extension? name == some Script.fileExtension) path).mapError
    (LoadFault.unreadable path)

/-- A folder of chapters, which are folders of scripts. -/
structure Library where
  root : String
  policy : Policy := {}

namespace Library

/-- The path of a chapter's script. -/
def path (library : Library) (chapter name : String) : String :=
  Path.join (Path.join library.root chapter) (name ++ "." ++ Script.fileExtension)

/-- A chapter's script, whatever the check finds. -/
def open? (library : Library) (disk : Disk) (chapter name : String) : Except LoadFault Script :=
  Script.ofFile disk (chapter ++ "/" ++ name) (library.path chapter name)

/-- A chapter's script, if the check finds no error. -/
def load (library : Library) (disk : Disk) (chapter name : String) : Except LoadFault Script :=
  (library.open? disk chapter name).bind (Script.fit library.policy)

end Library
end Narrative
