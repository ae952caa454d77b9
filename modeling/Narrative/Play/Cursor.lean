import Narrative.Script.Basic

/-!
Places in a script, with the switches that have been passed there.
-/
namespace Narrative

/-- An arrival at a switch that remembers. -/
inductive Arrival where
  | first (line : Nat)
  | mood (line : Nat) (harsh : Bool)
  deriving DecidableEq

/-- A place in a script. -/
structure Cursor where
  /-- The next line to run, counted from 0. -/
  position : Nat := 0
  /-- The arrivals so far, each once and the latest first. -/
  seen : List Arrival := []
  deriving DecidableEq

namespace Cursor

/-- Whether no line of the script is left. -/
def isFinished (c : Cursor) (script : Script) : Bool := script.size ≤ c.position

/-- The cursor with its arrivals forgotten. -/
def forget (c : Cursor) : Cursor := { c with seen := [] }

/-- The cursor at another line. -/
def moveTo (c : Cursor) (position : Nat) : Cursor := { c with position }

end Cursor

/-- Arrivals with one more. -/
def arrive (seen : List Arrival) (arrival : Arrival) : List Arrival :=
  if arrival ∈ seen then seen else arrival :: seen

/-- Where a run begins. -/
inductive Start where
  | beginning
  | label (name : String)
  /-- The label of a base and the source of the context. -/
  | suffixed (base : String)
  /-- The place where the cursor stands. -/
  | resume
  deriving DecidableEq

end Narrative
