import Narrative.Story.Condition
import Narrative.Text.Substitute

/-!
One option of a menu: when it is shown, when it can be chosen, and what it reads. Its text has
placeholders for the story state, which are filled in one after the other.
-/
namespace Narrative

/-- Whether an option may be shown at all. -/
inductive Visibility where
  | always
  /-- Settled when the menu is made. -/
  | fixed (visible : Bool)
  /-- Settled by the story state each time. -/
  | when (condition : Condition)

/-- Whether an option may be shown; without a context only a condition that reads no state can hold. -/
def Visibility.holds (ctx : Option Context) : Visibility → Bool
  | always => true
  | fixed visible => visible
  | when condition =>
    match ctx with
    | some ctx => condition.holds ctx
    | none => condition.holdsStateless

/-- How an option appears. -/
inductive Appearance where
  | hidden
  /-- Shown with a mark in place of a number, and not to be chosen. -/
  | greyed
  /-- Shown with a number. -/
  | available
  deriving DecidableEq

/-- An option of a menu. -/
structure Choice where
  id : String
  /-- The text, with placeholders for the source, the string and the number of the story state. -/
  template : String
  visibility : Visibility := .always
  /-- An option that must have been chosen before this one is shown. -/
  prerequisite : Option String := none
  /-- The number of picks after which the option is hidden; zero stands for any number. -/
  maxPicks : UInt32 := 0
  /-- How often the option has been chosen. -/
  picks : UInt32 := 0
  greyed : Bool := false
  /-- A chapter whose visit greys the option. -/
  tiedChapter : Option String := none

namespace Choice

/-- Whether the option has been chosen as often as it can be. -/
def isExhausted (c : Choice) : Bool := c.maxPicks != 0 && c.maxPicks ≤ c.picks

/-- Whether the option cannot be chosen although it is shown. -/
def isGreyed (c : Choice) (ctx : Option Context) : Bool :=
  c.greyed || c.tiedChapter.any fun chapter => ctx.any (·.hasVisited chapter)

/-- The option with one pick more, if its count has room for one. -/
def picked? (c : Choice) : Option Choice :=
  if c.picks == 0xFFFFFFFF then none else some { c with picks := c.picks + 1 }

/-- A placeholder with a name. -/
def placeholder (name : String) : String := "\x7b" ++ name ++ "\x7d"

/-- The text of the option; without a context the source and the string are empty and the number is 0. -/
def text (c : Choice) (ctx : Option Context) : String :=
  let source := (ctx.bind (·.source)).getD ""
  let string := (ctx.bind (·.string)).getD ""
  let number := (ctx.map (·.number)).getD 0
  Text.substitute (placeholder "number") (toString number)
    (Text.substitute (placeholder "string") string (Text.substitute (placeholder "source") source c.template))

end Choice
end Narrative
