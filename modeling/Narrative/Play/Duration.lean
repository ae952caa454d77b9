import Narrative.Number.Dyadic

/-!
Durations in seconds and nanoseconds.
-/
namespace Narrative

/-- A length of time; there are fewer than 10^9 nanoseconds. -/
structure Duration where
  seconds : Nat
  nanoseconds : Nat
  deriving DecidableEq

namespace Duration

/-- No time. -/
def zero : Duration := ⟨0, 0⟩

/-- A number of nanoseconds. -/
def ofNanoseconds (n : Nat) : Duration := ⟨n / 1000000000, n % 1000000000⟩

/-- A number of seconds to the nearest nanosecond, a tie going to the even one. A number that is
negative, not finite, or too large for 64 bits of seconds is no time. -/
def ofSeconds (x : Float) : Duration :=
  match Number.Dyadic.ofFloat? x with
  | none => zero
  | some d =>
    if d.negative || UInt64.size ≤ d.units 1 then zero else ofNanoseconds (d.units 1000000000)

/-- The duration in seconds. -/
def toSeconds (d : Duration) : Float := Float.ofNat d.seconds + Float.ofNat d.nanoseconds / 1000000000

end Duration
end Narrative
