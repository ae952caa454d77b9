import Narrative.Shell.Path

/-!
Files and folders, and what paths lead to among them. A path is followed step by step, so a step into
what is no folder and a step to what is missing are different faults; an empty step stays where it is.
-/
namespace Narrative

/-- A file, or a folder and what it holds. -/
inductive FileTree where
  | file (bytes : List UInt8)
  | folder (items : List (String × FileTree))
  deriving Inhabited

/-- Why nothing can be read at a path. -/
inductive ReadFault where
  | missing
  | notFolder
  | isFolder
  /-- What a device says of any other fault. -/
  | other (message : String)
  deriving DecidableEq

/-- The fault in words. -/
def ReadFault.message : ReadFault → String
  | missing => "No such file or directory (os error 2)"
  | notFolder => "Not a directory (os error 20)"
  | isFolder => "Is a directory (os error 21)"
  | other message => message

/-- What each path leads to. -/
abbrev Disk := String → Except ReadFault FileTree

namespace FileTree

/-- What steps lead to from a place, given the folders above it. -/
def walk : List String → FileTree → List FileTree → Except ReadFault FileTree
  | [], here, _ => .ok here
  | step :: rest, here, above =>
    match here with
    | file _ => .error .notFolder
    | folder items =>
      if step.isEmpty || step == "." then walk rest here above
      else if step == ".." then
        match above with
        | up :: above => walk rest up above
        | [] => .error .missing
      else
        match items.find? (·.1 == step) with
        | some (_, item) => walk rest item (here :: above)
        | none => .error .missing

/-- The disk that holds nothing but what is in a folder. -/
def disk (here : FileTree) : Disk := fun path =>
  if path.isEmpty || Path.isAbsolute path then .error .missing else walk (Path.steps path) here []

/-- The files among the items of a folder and below them whose names satisfy `wanted`, each by the steps
to it. -/
def filesAmong (wanted : String → Bool) : List (String × FileTree) → List (List String)
  | [] => []
  | (name, file _) :: rest => (if wanted name then [[name]] else []) ++ filesAmong wanted rest
  | (name, folder items) :: rest => (filesAmong wanted items).map (name :: ·) ++ filesAmong wanted rest

/-- The tree with a file or an empty folder added at the end of some steps. -/
def insert (added : FileTree) : List String → FileTree → FileTree
  | [], here => here
  | [name], folder items =>
    if items.any (·.1 == name) then folder items else folder (items ++ [(name, added)])
  | name :: path, folder items =>
    if items.any (·.1 == name) then
      folder (items.map fun (n, item) => if n == name then (n, insert added path item) else (n, item))
    else folder (items ++ [(name, insert added path (folder []))])
  | _, file bytes => file bytes

end FileTree

namespace Disk

/-- The bytes of the file at a path. -/
def read (disk : Disk) (path : String) : Except ReadFault (List UInt8) :=
  match disk path with
  | .ok (.file bytes) => .ok bytes
  | .ok (.folder _) => .error .isFolder
  | .error fault => .error fault

/-- Whether a path leads to a folder. -/
def isFolder (disk : Disk) (path : String) : Bool :=
  match disk path with
  | .ok (.folder _) => true
  | _ => false

/-- The files below the folder at a path whose names satisfy `wanted`, in the order of their steps. -/
def filesBelow (disk : Disk) (wanted : String → Bool) (path : String) : Except ReadFault (List String) :=
  match disk path with
  | .ok (.folder items) =>
    let found := (FileTree.filesAmong wanted items).mergeSort Path.notAfter
    .ok (found.map fun steps => steps.foldl Path.join path)
  | .ok (.file _) => .error .notFolder
  | .error fault => .error fault

end Disk
end Narrative
