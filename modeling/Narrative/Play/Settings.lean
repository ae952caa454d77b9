import Narrative.Data.Value

/-!
Settings of a player of scripts.
-/
namespace Narrative

/-- How scripts are played. -/
structure PlaySettings where
  /-- The seed of the pauses whose length is left to chance. -/
  seed : Nat := 42
  /-- Whether each line without interruption waits to be acknowledged. -/
  wait : Bool := true
  /-- The factor by which pauses are longer; a negative one counts as zero. -/
  pauseScale : Float := 1.0
  /-- The number of lines that one run may execute; zero stands for any number. -/
  stepLimit : Nat := 100000

namespace PlaySettings

/-- A factor for pauses, zero in place of what is negative or no number. -/
def nonNegative (x : Float) : Float := if 0 < x then x else 0

/-- The settings with another factor for pauses. -/
def withPauseScale (s : PlaySettings) (x : Float) : PlaySettings := { s with pauseScale := nonNegative x }

/-- The settings that a table describes; missing keys keep their defaults. -/
def ofValue? (value : Value) : Option PlaySettings := do
  let standard : PlaySettings := {}
  let entries ← value.record? ["seed", "wait", "pause_scale", "step_limit"]
  let seed ← Value.fieldOr entries "seed" standard.seed Value.word?
  let wait ← Value.fieldOr entries "wait" standard.wait Value.bool?
  let pauseScale ← Value.fieldOr entries "pause_scale" standard.pauseScale Value.number?
  let stepLimit ← Value.fieldOr entries "step_limit" standard.stepLimit Value.word?
  pure { seed, wait, pauseScale, stepLimit }

end PlaySettings
end Narrative
