import Narrative.Shell.Chance
import Narrative.Shell.Program

/-!
The program: what the command line asks for, on the files and the terminal of this machine.
-/
namespace Narrative.Main

/-- A fault of this machine. -/
def faultOf : IO.Error → ReadFault
  | .noFileOrDirectory .. => .missing
  | .inappropriateType .. => .notFolder
  | error => .other (toString error)

/-- What a path leads to if it leads to no folder. -/
def surveyFile (path : String) : IO (Except ReadFault FileTree) := do
  try
    let bytes ← IO.FS.readBinFile path
    return .ok (.file bytes.toList)
  catch error => return .error (faultOf error)

/-- What a path and the paths below it lead to. -/
partial def survey (path : String) : IO (List (String × Except ReadFault FileTree)) := do
  try
    let place ← IO.FS.realPath path
    if ← place.isDir then
      let mut items := []
      let mut below := []
      for entry in ← place.readDir do
        let inner ← survey (Path.join path entry.fileName)
        let item := match inner with
          | (_, .ok tree) :: _ => tree
          | _ => FileTree.file []
        items := (entry.fileName, item) :: items
        below := inner ++ below
      return (path, .ok (.folder items)) :: below
    else return [(path, ← surveyFile path)]
  catch _ => return [(path, ← surveyFile path)]

/-- The paths that a command looks at. -/
def pathsOf : Invocation → List String
  | .command _ config given => config.getD Settings.usualFile :: given.operands
  | _ => []

/-- Shows a piece of what is played, and waits where it says so. -/
def present (moment : Moment) : IO Unit := do
  for line in moment.written? do IO.println line
  match moment with
  | .call .acknowledge =>
    (← IO.getStdout).flush
    discard (← IO.getStdin).getLine
  | .call (.pause length) =>
    IO.sleep (UInt32.ofNat (min (1000 * length.seconds + length.nanoseconds / 1000000) 0xFFFFFFFF))
  | _ => pure ()

end Narrative.Main

open Narrative in
/-- Carries out what the command line asks for. -/
def main (arguments : List String) : IO UInt32 := do
  let invocation := Invocation.ofArguments arguments
  let found ← (Main.pathsOf invocation).mapM Main.survey
  let disk : Disk := fun path =>
    match found.flatten.find? (·.1 == path) with
    | some (_, place) => place
    | none => .error .missing
  let exit := invocation.perform StdGen disk
  for moment in exit.performance.played do Main.present moment
  for line in exit.performance.printed do IO.println line
  for line in exit.performance.reported do IO.eprintln line
  match exit.performance.errorLines with
  | [] => pure ()
  | first :: rest =>
    IO.eprintln ("Error:   × " ++ first)
    for line in rest do IO.eprintln ("  │ " ++ line)
  return UInt32.ofNat exit.code
