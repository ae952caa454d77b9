import Narrative.Script.Labels

/-!
Scripts as lists of lines. Parsing never fails. A line ends at a line feed, and the carriage returns
before it belong to its end, so what is left of a line holds no line feed and ends in no carriage
return.
-/
namespace Narrative

/-- A parsed script. -/
structure Script where
  /-- A name such as a path. -/
  name : String
  lines : List Line
  deriving DecidableEq

namespace Script

/-- The lines of a text with their ends; the last one may lack its line feed. -/
def chunks : List Char → List (List Char)
  | [] => []
  | c :: rest =>
    if c == '\n' then ['\n'] :: chunks rest
    else
      match chunks rest with
      | [] => [[c]]
      | chunk :: more => (c :: chunk) :: more

/-- A line of text without its end. -/
def withoutEnd (chunk : List Char) : List Char :=
  ((chunk.reverse.dropWhile (· == '\n')).dropWhile (· == '\r')).reverse

/-- The lines that chunks make, the first of which has a given place and offset. -/
def linesFrom (index offset : Nat) : List (List Char) → List Line
  | [] => []
  | chunk :: rest =>
    Line.ofText index offset (withoutEnd chunk) :: linesFrom (index + 1) (offset + Text.byteLength chunk) rest

/-- The script that a source writes. -/
def parse (name source : String) : Script := ⟨name, linesFrom 0 0 (chunks source.toList)⟩

/-- The number of lines. -/
def size (script : Script) : Nat := script.lines.length

/-- The line at a place counted from 0. -/
def line? (script : Script) (index : Nat) : Option Line := script.lines[index]?

/-- The labels that the script defines. -/
def labels (script : Script) : LabelTable := LabelTable.ofLines script.lines

end Script
end Narrative
