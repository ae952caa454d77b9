import Narrative.Cast.Persona

/-!
Who can speak a line: a narrator, the princess, the player, or a persona.
-/
namespace Narrative

/-- Who narrates a scene. -/
inductive Narrator where
  | standard | princess
  deriving DecidableEq

/-- Who speaks a line. -/
inductive Speaker where
  | narrator (who : Narrator)
  | princess
  | player
  | voice (persona : Persona)
  deriving DecidableEq

namespace Speaker

/-- The speaker of a line that names none. -/
def default : Speaker := .narrator .standard

/-- The persona behind a voice. -/
def persona? : Speaker → Option Persona
  | voice p => some p
  | _ => none

/-- Whether a narrator speaks. -/
def isNarrator : Speaker → Bool
  | narrator _ => true
  | _ => false

/-- The name of a speaker in scripts. -/
def name : Speaker → String
  | narrator .standard => "narrator"
  | narrator .princess => "princessnarrator"
  | princess => "princess"
  | player => "you"
  | voice p => p.name

/-- The name that the player sees. -/
def title : Speaker → String
  | narrator _ => "The Narrator"
  | princess => "The Princess"
  | player => "You"
  | voice p => p.title

/-- The speaker with a name, blanks at its ends and case aside. -/
def ofName? (text : String) : Option Speaker :=
  match Text.lower (Text.trim text) with
  | "narrator" => some (.narrator .standard)
  | "princessnarrator" => some (.narrator .princess)
  | "princess" => some .princess
  | "you" => some .player
  | other => (Persona.ofName? other).map voice

/-- What is said of a name that no speaker has. -/
def unknownMessage (text : String) : String := "unknown speaker: \"" ++ Text.trim text ++ "\""

end Speaker
end Narrative
