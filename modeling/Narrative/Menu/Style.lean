import Narrative.Data.Value
import Narrative.Menu.Choice

/-!
How menus are written: the lines of options, and the texts that turn an input down.
-/
namespace Narrative

/-- The texts that turn an input down. -/
structure RebuffTexts where
  /-- The input is no command. -/
  unrecognized : String
  /-- What follows if a command is close. -/
  suggestion : String
  /-- The command does not count here. -/
  unavailable : String
  /-- The number has no option. -/
  outOfRange : String
  deriving DecidableEq

namespace RebuffTexts

/-- The texts of a narrator. -/
def narrated : RebuffTexts where
  unrecognized := "That isn't something you can do."
  suggestion := " Perhaps you meant \"" ++ Choice.placeholder "suggestion" ++ "\"?"
  unavailable := "Now isn't the time for that. Make a choice."
  outOfRange := "There are only " ++ Choice.placeholder "count" ++ " options in front of you."

/-- The texts where nobody narrates. -/
def unnarrated : RebuffTexts where
  unrecognized := "Unrecognized command."
  suggestion := " Did you mean \"" ++ Choice.placeholder "suggestion" ++ "\"?"
  unavailable := "That command is not available here."
  outOfRange := "Please enter a number from 1 to " ++ Choice.placeholder "count" ++ "."

/-- The texts that a table describes; missing keys keep the texts where nobody narrates. -/
def ofValue? (value : Value) : Option RebuffTexts := do
  let entries ← value.record? ["unrecognized", "suggestion", "unavailable", "out_of_range"]
  let unrecognized ← Value.fieldOr entries "unrecognized" unnarrated.unrecognized Value.text?
  let suggestion ← Value.fieldOr entries "suggestion" unnarrated.suggestion Value.text?
  let unavailable ← Value.fieldOr entries "unavailable" unnarrated.unavailable Value.text?
  let outOfRange ← Value.fieldOr entries "out_of_range" unnarrated.outOfRange Value.text?
  pure { unrecognized, suggestion, unavailable, outOfRange }

end RebuffTexts

/-- How menus are written. -/
structure MenuStyle where
  /-- An option's line, with placeholders for its mark and its text. -/
  optionFormat : String := "(" ++ Choice.placeholder "marker" ++ ") " ++ Choice.placeholder "text"
  /-- The mark of an option that cannot be chosen. -/
  greyedMarker : String := "X"
  narrated : RebuffTexts := .narrated
  unnarrated : RebuffTexts := .unnarrated
  deriving DecidableEq

namespace MenuStyle

/-- The line of an option. -/
def optionLine (style : MenuStyle) (marker text : String) : String :=
  Text.substitute (Choice.placeholder "text") text
    (Text.substitute (Choice.placeholder "marker") marker style.optionFormat)

/-- The style that a table describes; missing keys keep their defaults. -/
def ofValue? (value : Value) : Option MenuStyle := do
  let standard : MenuStyle := {}
  let entries ← value.record? ["option_format", "greyed_marker", "narrated", "unnarrated"]
  let optionFormat ← Value.fieldOr entries "option_format" standard.optionFormat Value.text?
  let greyedMarker ← Value.fieldOr entries "greyed_marker" standard.greyedMarker Value.text?
  let narrated ← Value.fieldOr entries "narrated" standard.narrated RebuffTexts.ofValue?
  let unnarrated ← Value.fieldOr entries "unnarrated" standard.unnarrated RebuffTexts.ofValue?
  pure { optionFormat, greyedMarker, narrated, unnarrated }

end MenuStyle
end Narrative
