import Narrative.Enumerated
import Narrative.Text.Lowercase

/-!
The facts of the story that scripts can ask for.
-/
namespace Narrative

/-- A fact that holds or does not. -/
inductive Flag where
  | firstVessel | hasBlade | threwBlade | sharedLoop | sharedInsist | mirrorAsked | mirrorTouched
  | mirrorSecondVisit | harsh | knowsDestiny | genericCheck
  deriving DecidableEq

namespace Flag

instance : Enumerated Flag where
  all := [firstVessel, hasBlade, threwBlade, sharedLoop, sharedInsist, mirrorAsked, mirrorTouched,
    mirrorSecondVisit, harsh, knowsDestiny, genericCheck]
  mem_all f := by cases f <;> simp

/-- The name of a flag in scripts. -/
def name : Flag → String
  | firstVessel => "firstvessel"
  | hasBlade => "hasblade"
  | threwBlade => "threwblade"
  | sharedLoop => "sharedloop"
  | sharedInsist => "sharedinsist"
  | mirrorAsked => "mirrorasked"
  | mirrorTouched => "mirrortouched"
  | mirrorSecondVisit => "mirror2"
  | harsh => "harsh"
  | knowsDestiny => "knowsdestiny"
  | genericCheck => "check"

/-- The flag with a name, the case of ASCII letters aside. -/
def ofName? (text : String) : Option Flag := Enumerated.all.find? fun f => Text.sameAsciiCase f.name text

end Flag
end Narrative
