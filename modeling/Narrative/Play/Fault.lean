import Narrative.Cast.Persona
import Narrative.Script.Directive
import Narrative.Text.Quoted

/-!
What can be wrong with a script when it runs.
-/
namespace Narrative

/-- The part of the story state for which a switch has no branch. -/
inductive SwitchState where
  | source (value : Option String)
  | voices (present : Voices)
  | string (value : Option String)
  | noLabels
  deriving DecidableEq

/-- The part of the state in words. -/
def SwitchState.describe : SwitchState → String
  | source value => "source " ++ Text.quoteOption value
  | voices present => "voices " ++ present.render
  | string value => "string " ++ Text.quoteOption value
  | noLabels => "no labels"

/-- Why a run cannot go on; lines are counted from 1. -/
inductive Fault where
  | unknownLabel (label : String)
  | noSwitchBranch (line : Nat) (keyword : Keyword) (state : SwitchState)
  | lineOutOfRange (line : Nat) (target : Int)
  | malformedDirective (line : Nat) (keyword : Keyword)
  | stepLimit (limit : Nat)
  deriving DecidableEq

/-- The fault of a script in words. -/
def Fault.message (script : String) : Fault → String
  | unknownLabel label => script ++ ": label not found: " ++ label
  | noSwitchBranch line keyword state =>
    script ++ " line " ++ toString line ++ ": " ++ keyword.name ++ " has no branch for " ++ state.describe
  | lineOutOfRange line target =>
    script ++ " line " ++ toString line ++ ": jump to line " ++ toString target ++ " is out of range"
  | malformedDirective line keyword =>
    script ++ " line " ++ toString line ++ ": malformed " ++ keyword.name ++ " directive"
  | stepLimit limit => script ++ ": exceeded " ++ toString limit ++ " steps; the script probably loops"

end Narrative
