import Narrative.Command.Request
import Narrative.Menu.Style

/-!
Turning an input down.
-/
namespace Narrative

/-- Why an input is turned down. -/
inductive Rebuff where
  | unrecognized (misread : Misread)
  | unavailable (command : Command)
  /-- A number that none of `count` options carries. -/
  | outOfRange (number : Int) (count : Nat)
  deriving DecidableEq

namespace Rebuff

/-- Whether the input was no number, so that the text of a menu replaces the usual one. -/
def isFreeText : Rebuff → Bool
  | outOfRange _ _ => false
  | _ => true

/-- The text that turns an input down, in the words of a narrator or not, unless a menu has its own. -/
def text (style : MenuStyle) (narrated : Bool) (own : Option String) (rebuff : Rebuff) : String :=
  let texts := if narrated then style.narrated else style.unnarrated
  match own, rebuff with
  | _, outOfRange _ count => Text.substitute (Choice.placeholder "count") (toString count) texts.outOfRange
  | some own, _ => own
  | none, unrecognized (.unrecognizedCommand _ (some suggestion)) =>
    texts.unrecognized ++ Text.substitute (Choice.placeholder "suggestion") suggestion texts.suggestion
  | none, unrecognized _ => texts.unrecognized
  | none, unavailable _ => texts.unavailable

end Rebuff
end Narrative
