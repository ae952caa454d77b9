/-!
The source of chance in pauses. What a source is made of is left open: a seed starts it, and a draw gives a number and
leaves the source for the next one. All that is asked of it is that a number lies between the bounds of its draw
(`Generator.draw_mem`).
-/
namespace Narrative

/-- The states of a source of chance. -/
class Generator (σ : Type) where
  /-- The source that a seed starts. -/
  ofSeed (seed : Nat) : σ
  /-- A number from `low` to `high`, and the source after it. -/
  draw (low high : Nat) (source : σ) : Nat × σ
  draw_mem {low high : Nat} (ordered : low ≤ high) (source : σ) :
    low ≤ (draw low high source).1 ∧ (draw low high source).1 ≤ high

/-- A source that reads numbers from a tape. What another source yields in finitely many draws, a tape yields too. -/
structure Tape where
  numbers : List Nat := []
  deriving DecidableEq

/-- A number on a tape is held within the bounds of its draw. Beyond the end of the tape stand zeros. -/
instance : Generator Tape where
  ofSeed seed := ⟨[seed]⟩
  draw low high tape := (max low (min (tape.numbers.headD 0) high), ⟨tape.numbers.tail⟩)
  draw_mem ordered _ := ⟨Nat.le_max_left _ _, Nat.max_le.mpr ⟨ordered, Nat.min_le_right _ _⟩⟩

end Narrative
