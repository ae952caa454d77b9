import Narrative.Play.Generator

/-!
The chance of this machine: the standard generator of numbers.
-/
namespace Narrative

instance : Generator StdGen where
  ofSeed seed := mkStdGen seed
  draw low high source := randNat source low high
  draw_mem {low high} ordered source := by
    have least : (if low > high then high else low) = low := if_neg (Nat.not_lt.mpr ordered)
    have greatest : (if low > high then low else high) = high := if_neg (Nat.not_lt.mpr ordered)
    have bound : ∀ n, n % (high - low + 1) < high - low + 1 := fun n => Nat.mod_lt n (Nat.succ_pos _)
    simp only [randNat, least, greatest]
    constructor
    · exact Nat.le_add_right _ _
    · exact Nat.le_trans (Nat.add_le_add_left (Nat.le_of_lt_succ (bound _)) low) (by omega)

end Narrative
