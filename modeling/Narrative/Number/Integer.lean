/-!
Integers as text: an optional sign and ASCII digits, read within 64 bits.
-/
namespace Narrative.Number

/-- The value of one or more ASCII digits. -/
def natural? (cs : List Char) : Option Nat :=
  if cs.isEmpty || !cs.all Char.isDigit then none
  else some (cs.foldl (fun n c => 10 * n + (c.toNat - '0'.toNat)) 0)

/-- Whether an integer fits a signed word of 64 bits. -/
def isWord (n : Int) : Bool := -0x8000000000000000 ≤ n && n < 0x8000000000000000

/-- The value of an optional sign followed by digits, whatever its size. -/
def signed? : List Char → Option Int
  | '-' :: ds => (natural? ds).map fun n => -(n : Int)
  | '+' :: ds => (natural? ds).map fun n => (n : Int)
  | ds => (natural? ds).map fun n => (n : Int)

/-- The integer that a text writes, if it fits 64 bits. -/
def integer? (s : String) : Option Int := (signed? s.toList).filter isWord

end Narrative.Number
