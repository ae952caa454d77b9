import Narrative.Text.Blank
import Narrative.Text.Lowercase

/-!
Possession of the blade.
-/
namespace Narrative

/-- Whether the blade is held, was held before, or neither. -/
inductive Blade where
  | never | held | former
  deriving DecidableEq

namespace Blade

/-- The name of a state. -/
def name : Blade → String
  | never => "never"
  | held => "held"
  | former => "former"

/-- The state with a name, blanks at its ends and case aside. -/
def ofName? (text : String) : Option Blade :=
  match Text.lower (Text.trim text) with
  | "never" => some .never
  | "held" => some .held
  | "former" => some .former
  | _ => none

/-- What is said of a name that no state has. -/
def unknownMessage (text : String) : String :=
  "unknown blade state: \"" ++ text ++ "\" (expected held, former, or never)"

end Blade
end Narrative
