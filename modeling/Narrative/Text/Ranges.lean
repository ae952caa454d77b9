/-!
Classes of characters given by the ranges of their code points.
-/
namespace Narrative.Text

/-- Whether a code point lies in one of the ranges, bounds included. -/
def inRanges (ranges : List (Nat × Nat)) (n : Nat) : Bool :=
  ranges.any fun (low, high) => low ≤ n && n ≤ high

end Narrative.Text
