import Narrative.Text.Width.Follower

/-!
The number of columns that a text takes where every character takes a whole number of them. What a character
adds depends on what follows it, so a text is measured from its end.
-/
namespace Narrative.Text

/-- The columns of characters, and what is ahead of a character in front of them. -/
def measure : List Char → Int × Ahead
  | [] => (0, {})
  | c :: cs =>
    let (columns, ahead) := measure cs
    let (added, ahead) := ahead.extend c
    (columns + added, ahead)

/-- The number of columns that a text takes. -/
def width (s : String) : Nat := (measure s.toList).1.toNat

/-- A text with spaces after it up to a number of columns. -/
def padRight (columns : Nat) (s : String) : String :=
  s ++ String.ofList (List.replicate (columns - width s) ' ')

end Narrative.Text
