import Narrative.Script.Report

/-!
Findings drawn under the lines that they are about. A line is shown once more for each of its
findings, with a rule under all of it and the details below the middle.
-/
namespace Narrative.Snippet

/-- A character a number of times. -/
def run (n : Nat) (c : Char) : String := String.ofList (List.replicate n c)

/-- The word in front of a finding. -/
def kind (f : Finding) : String :=
  match f.severity with
  | .error => "Error"
  | .note => "Advice"

/-- What the drawing points out: the details, or the subtype where there are none. -/
def pointer (f : Finding) : String :=
  if f.details.isEmpty then f.defect.subtype else String.intercalate ", " f.details

/-- The drawing of a finding about a line with a given text. -/
def draw (name text : String) (f : Finding) : List String :=
  let number := toString (f.line + 1)
  let margin := run (number.length + 2) ' '
  let width := f.span.stop - f.span.start
  let middle := width / 2
  [ "[" ++ f.defect.code ++ "] " ++ kind f ++ ": " ++ f.headline,
    margin ++ "╭─[ " ++ name ++ ":" ++ number ++ ":1 ]",
    margin ++ "│",
    " " ++ number ++ " │ " ++ text,
    margin ++ "│ " ++ run middle '─' ++ "┬" ++ run (width - middle - 1) '─',
    margin ++ "│ " ++ run middle ' ' ++ "╰" ++ run (width + 1 - middle) '─' ++ " " ++ pointer f,
    run (number.length + 2) '─' ++ "╯" ]

/-- The drawings of findings about a source with given lines, blanks at the ends of lines aside. -/
def drawAll (name : String) (textOf : Nat → String) (findings : List Finding) : List String :=
  (findings.flatMap fun f => draw name (textOf f.line) f).map fun line =>
    String.ofList (line.toList.reverse.dropWhile (· == ' ')).reverse

end Narrative.Snippet
