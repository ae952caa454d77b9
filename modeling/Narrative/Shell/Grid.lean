import Narrative.Text.Fields
import Narrative.Text.Width

/-!
Tables drawn with characters: a column is as wide as its widest cell, a double line stands below the
headings and a line between any two rows.
-/
namespace Narrative

/-- A table with headings. -/
structure Grid where
  headings : List String
  rows : List (List String)

namespace Grid

/-- The widths that hold both given ones, column by column. -/
def widest (a b : List Nat) : List Nat := List.zipWith max a b

/-- The width of each column. -/
def widths (g : Grid) : List Nat :=
  g.rows.foldl (fun ws row => widest ws (row.map Text.width)) (g.headings.map Text.width)

/-- Cells side by side in columns of given widths. -/
def line (widths : List Nat) (cells : List String) : String :=
  "| " ++ String.intercalate " | " (List.zipWith Text.padRight widths cells) ++ " |"

/-- A line across all columns; `edge` stands at its ends and `cross` between columns. -/
def rule (edge cross : String) (dash : Char) (widths : List Nat) : String :=
  edge ++ String.intercalate cross (widths.map fun w => String.ofList (List.replicate (w + 2) dash)) ++ edge

/-- The lines of the table. -/
def lines (g : Grid) : List String :=
  let widths := g.widths
  let border := rule "+" "+" '-' widths
  [border, line widths g.headings, rule "+" "=" '=' widths] ++
    (g.rows.map (line widths)).intersperse (rule "|" "+" '-' widths) ++ [border]

end Grid
end Narrative
