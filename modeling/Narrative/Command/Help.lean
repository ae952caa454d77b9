import Narrative.Command.Vocabulary
import Narrative.Text.Fields

/-!
Help on commands.
-/
namespace Narrative.Command

/-- The name of a command as a heading, and what it does. -/
def headline (c : Command) : String := c.name.toUpper ++ ": " ++ c.row.description

/-- A line for each command with a verb. -/
def helpLines : List String :=
  ((Enumerated.all : List Command).filter (!·.row.verbs.isEmpty)).map headline

/-- The canonical forms of the arguments of a command, the empty one aside. -/
def options (c : Command) : List String :=
  match c.row.arguments with
  | .groups groups => (groups.map (·.headD blank)).filter (!·.isEmpty)
  | .commandName => []

/-- The help on one command. -/
def helpOn (c : Command) : List String :=
  [c.headline, "  also: " ++ String.intercalate ", " c.row.verbs] ++
    if c.options.isEmpty then [] else ["  options: " ++ String.intercalate ", " c.options]

end Narrative.Command
