import Narrative.Command.Vocabulary
import Narrative.Text.Lowercase

/-!
The command words nearest to a misspelt one. How alike two words are is left open.
-/
namespace Narrative

/-- A measure of how alike two words are, from 0 to 1. -/
class Likeness where
  score (word other : String) : Float

namespace Similarity
/-- Puts a scored word before the first one with a lower score. -/
def insertScored (entry : String × Float) : List (String × Float) → List (String × Float)
  | [] => [entry]
  | e :: rest => if entry.2 > e.2 then entry :: e :: rest else e :: insertScored entry rest

/-- The command words at least as alike to a word as a threshold, the likest first; equals keep their
order. -/
def nearest [Likeness] (word : String) (threshold : Float) : List (String × Float) :=
  let word := Text.lower word
  let scored := (Command.allVerbs.map fun verb => (verb, Likeness.score word verb)).filter fun e => e.2 ≥ threshold
  scored.foldl (fun sorted entry => insertScored entry sorted) []

/-- How alike a command word must be to be suggested. -/
def suggestionThreshold : Float := 0.8

/-- The command word to suggest in place of a misspelt one. -/
def suggest? [Likeness] (word : String) : Option String := ((nearest word suggestionThreshold).head?).map (·.1)

end Similarity
end Narrative
