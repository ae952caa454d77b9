/-!
Floating-point numbers as exact fractions with a power of two, and their rounding to whole
multiples of a unit: to the nearest one, a tie going to the even neighbour.
-/
namespace Narrative.Number

/-- The number `± mantissa · 2 ^ exponent`. -/
structure Dyadic where
  negative : Bool
  mantissa : Nat
  exponent : Int
  deriving DecidableEq

/-- The exact value of a floating-point number, if it is finite. -/
def Dyadic.ofFloat? (x : Float) : Option Dyadic :=
  let bits : Nat := x.toBits.toNat
  let field : Nat := (bits >>> 52) % 0x800
  let fraction : Nat := bits % 0x10000000000000
  let negative : Bool := 0x8000000000000000 ≤ bits
  if field == 2047 then none
  else if field == 0 then some ⟨negative, fraction, -1074⟩
  else some ⟨negative, fraction + 0x10000000000000, (field : Int) - 1075⟩

/-- The quotient to the nearest whole number, a tie going to the even one. -/
def roundQuotient (numerator denominator : Nat) : Nat :=
  let whole := numerator / denominator
  let twice := 2 * (numerator % denominator)
  if twice < denominator || (twice == denominator && whole % 2 == 0) then whole else whole + 1

/-- The size of the number in units of `1 / parts`, rounded. -/
def Dyadic.units (parts : Nat) (d : Dyadic) : Nat :=
  if 0 ≤ d.exponent then (d.mantissa * parts) <<< d.exponent.toNat
  else roundQuotient (d.mantissa * parts) (1 <<< (-d.exponent).toNat)

/-- A natural number with at least `width` digits. -/
def padded (width n : Nat) : String :=
  let digits := toString n
  String.ofList (List.replicate (width - digits.length) '0') ++ digits

/-- The number with six decimals. -/
def sixDecimals (x : Float) : String :=
  match Dyadic.ofFloat? x with
  | some d =>
    let millionths := d.units 1000000
    (if d.negative then "-" else "") ++ toString (millionths / 1000000) ++ "." ++ padded 6 (millionths % 1000000)
  | none => if x.isNaN then "NaN" else if x < 0 then "-inf" else "inf"

end Narrative.Number
