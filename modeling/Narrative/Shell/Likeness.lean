import Narrative.Command.Similarity

/-!
The likeness of words on this machine. Characters match where they stand near each other in both words;
what counts is how many match, how many of those are out of order, and how long the words begin alike.
-/
namespace Narrative.Similarity

/-- How far apart the places of matching characters may be in words of given lengths. -/
def window (m n : Nat) : Nat := max m n / 2 - 1

/-- Matches the characters from place `i` on, each to the first free place within reach: the characters
that found a match, and the places left free. -/
def matching (reach i : Nat) : List Char → List (Char × Nat) → List Char × List (Char × Nat)
  | [], free => ([], free)
  | c :: rest, free =>
    match free.find? fun p => p.1 == c && i ≤ p.2 + reach && p.2 ≤ i + reach with
    | some place =>
      let (found, free) := matching reach (i + 1) rest (free.erase place)
      (c :: found, free)
    | none => matching reach (i + 1) rest free

/-- The number of places where two lists differ. -/
def mismatches (a b : List Char) : Nat := (a.zip b).countP fun p => p.1 != p.2

/-- How alike two words are by their matching characters alone. -/
def jaro (a b : List Char) : Float :=
  if a.isEmpty && b.isEmpty then 1
  else
    let places := b.zipIdx
    let (found, free) := matching (window a.length b.length) 0 a places
    let others := (places.filter (!free.contains ·)).map (·.1)
    let m := Float.ofNat found.length
    let swapped := mismatches found others / 2
    if found.isEmpty then 0
    else
      (m / Float.ofNat a.length + m / Float.ofNat b.length + Float.ofNat (found.length - swapped) / m) / 3

/-- The number of characters with which two words begin alike. -/
def commonStart : List Char → List Char → Nat
  | a :: as, b :: bs => if a == b then commonStart as bs + 1 else 0
  | _, _ => 0

/-- How alike two words are; words that are alike enough gain by beginning alike, up to 4 characters. -/
def score (a b : String) : Float :=
  let plain := jaro a.toList b.toList
  if plain > 0.7 then
    plain + 0.1 * Float.ofNat (min 4 (commonStart a.toList b.toList)) * (1 - plain)
  else plain

instance : Likeness where
  score := score

end Narrative.Similarity
