import Narrative.Enumerated
import Narrative.Text.Blank
import Narrative.Text.Lowercase

/-!
The personas of the protagonist, a closed set, and the scenes' selections of them.
-/
namespace Narrative

/-- A facet of the protagonist that can be present in a scene and speak. -/
inductive Persona where
  | hero | broken | cheated | cold | contrarian | hunted | opportunist | paranoid | skeptic | smitten | stubborn
  deriving DecidableEq

namespace Persona

instance : Enumerated Persona where
  all := [hero, broken, cheated, cold, contrarian, hunted, opportunist, paranoid, skeptic, smitten, stubborn]
  mem_all p := by cases p <;> simp

/-- The name of a persona in scripts. -/
def name : Persona → String
  | hero => "hero"
  | broken => "broken"
  | cheated => "cheated"
  | cold => "cold"
  | contrarian => "contrarian"
  | hunted => "hunted"
  | opportunist => "opportunist"
  | paranoid => "paranoid"
  | skeptic => "skeptic"
  | smitten => "smitten"
  | stubborn => "stubborn"

/-- The persona with a name, blanks at its ends and the case of ASCII letters aside. -/
def ofName? (text : String) : Option Persona :=
  Enumerated.all.find? fun p => Text.sameAsciiCase p.name (Text.trim text)

/-- The title under which a persona speaks to the player. -/
def title : Persona → String
  | hero => "Voice of the Hero"
  | broken => "Voice of the Broken"
  | cheated => "Voice of the Cheated"
  | cold => "Voice of the Cold"
  | contrarian => "Voice of the Contrarian"
  | hunted => "Voice of the Hunted"
  | opportunist => "Voice of the Opportunist"
  | paranoid => "Voice of the Paranoid"
  | skeptic => "Voice of the Skeptic"
  | smitten => "Voice of the Smitten"
  | stubborn => "Voice of the Stubborn"

end Persona

/-- A set of personas. -/
abbrev Voices := Selection Persona

/-- The names of the personas between braces. -/
def Voices.render (voices : Voices) : String :=
  "\x7b" ++ String.intercalate ", " (voices.members.map Persona.name) ++ "\x7d"

end Narrative
