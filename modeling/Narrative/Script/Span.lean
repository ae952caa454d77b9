/-!
Positions in a source, counted in bytes of UTF-8.
-/
namespace Narrative

/-- The bytes from `start` up to but not including `stop`. -/
structure Span where
  start : Nat
  stop : Nat
  deriving DecidableEq

/-- The span moved towards the end of the source. -/
def Span.shift (n : Nat) (s : Span) : Span := ⟨s.start + n, s.stop + n⟩

end Narrative
