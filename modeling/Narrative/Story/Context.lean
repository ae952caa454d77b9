import Narrative.Cast.Speaker
import Narrative.Story.Blade
import Narrative.Story.Flag

/-!
The story state that gates, switches and menus read. The flag of holding the blade is not stored: it
is read from the state of the blade, and writing it moves the blade (`hasFlag_setFlag`).
-/
namespace Narrative

/-- The state of the story. -/
structure Context where
  voices : Voices := .empty
  narrator : Option Narrator := none
  blade : Blade := .never
  /-- The route or chapter from which the scene was entered. -/
  source : Option String := none
  /-- The text that string checks compare. -/
  string : Option String := none
  /-- The counter that number checks compare. -/
  number : Int := 0
  /-- The chapters visited, in ascending order and each once. -/
  visited : List String := []
  /-- The flags that are set, the derived one aside. -/
  flags : Selection Flag := .empty
  deriving DecidableEq

/-- A list in ascending order with a text put in its place, unless it is there already. -/
def insertSorted (text : String) : List String → List String
  | [] => [text]
  | s :: rest => if text == s then s :: rest else if text < s then text :: s :: rest else s :: insertSorted text rest

namespace Context

/-- A scene without state, not even a narrator. -/
def blank : Context := {}

/-- The start of a story: nothing has happened, and the standard narrator is present. -/
def opening : Context := { narrator := some .standard }

/-- Whether a flag holds. -/
def hasFlag (ctx : Context) (flag : Flag) : Bool :=
  if flag == .hasBlade then ctx.blade == .held else ctx.flags.contains flag

/-- Sets or clears a flag. Clearing the flag of holding the blade leaves a blade that was held before. -/
def setFlag (ctx : Context) (flag : Flag) (value : Bool) : Context :=
  if flag == .hasBlade then
    if value then { ctx with blade := .held }
    else if ctx.blade == .held then { ctx with blade := .former }
    else ctx
  else { ctx with flags := if value then ctx.flags.insert flag else ctx.flags.erase flag }

/-- Marks a chapter as visited. -/
def visit (ctx : Context) (chapter : String) : Context :=
  { ctx with visited := insertSorted chapter ctx.visited }

/-- Whether a chapter has been visited. -/
def hasVisited (ctx : Context) (chapter : String) : Bool := ctx.visited.contains chapter

/-- Whether someone narrates. -/
def hasNarrator (ctx : Context) : Bool := ctx.narrator.isSome

/-- The flags that hold, in their order of declaration. -/
def heldFlags (ctx : Context) : List Flag := Enumerated.all.filter ctx.hasFlag

/-- A write to a flag is what later reads of it see, and reads of other flags do not see it. -/
theorem hasFlag_setFlag (ctx : Context) (written read : Flag) (value : Bool) :
    (ctx.setFlag written value).hasFlag read = if read = written then value else ctx.hasFlag read := by
  cases value <;> by_cases w : written = .hasBlade <;> by_cases r : read = .hasBlade <;>
    by_cases b : ctx.blade = .held <;> by_cases e : read = written <;>
    simp_all [setFlag, hasFlag, Selection.insert, Selection.erase]

end Context
end Narrative
