import Narrative.Device

/-!
The screen and the keyboard in front of a player. Each use of either may fail; what happened before a
failure stays.
-/
namespace Narrative

/-- What happened on a terminal. -/
inductive Exchange where
  /-- The player was asked for a line. -/
  | prompt
  | wrote (line : String)
  deriving DecidableEq

/-- A terminal and what happened on it. -/
structure Terminal where
  /-- What happened, in order. -/
  log : Array Exchange := #[]
  prompts : Allowance := none
  writes : Allowance := none
  deriving DecidableEq

namespace Terminal

/-- The terminal after the player is asked for a line, if that succeeds. -/
def prompt? (t : Terminal) : Option Terminal :=
  t.prompts.spend?.map fun left => { t with log := t.log.push .prompt, prompts := left }

/-- The terminal after a line is written, if that succeeds. -/
def write? (t : Terminal) (line : String) : Option Terminal :=
  t.writes.spend?.map fun left => { t with log := t.log.push (.wrote line), writes := left }

/-- The terminal after lines up to the first that fails, and whether all of them were written. -/
def writeAll (t : Terminal) : List String → Terminal × Bool
  | [] => (t, true)
  | line :: rest =>
    match t.write? line with
    | some t => t.writeAll rest
    | none => (t, false)

/-- The lines written, in order. -/
def written (t : Terminal) : List String :=
  t.log.toList.filterMap fun
    | .wrote line => some line
    | .prompt => none

/-- What the screen shows: each line by itself, and a mark wherever a line was asked for. -/
def screen (t : Terminal) : String :=
  t.log.foldl (fun text exchange =>
    match exchange with
    | .prompt => text ++ "> "
    | .wrote line => text ++ line ++ "\n") ""

end Terminal
end Narrative
