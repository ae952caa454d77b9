import Narrative.Data.Json
import Narrative.Script.Defect
import Narrative.Script.Span
import Narrative.Text.Fields

/-!
Findings of a check and the report that lists them in the order of their lines, as text and as data.
-/
namespace Narrative

/-- A defect at a line. -/
structure Finding where
  /-- The place of the line, counted from 0. -/
  line : Nat
  /-- The bytes of the line in the source. -/
  span : Span
  defect : Defect
  /-- The labels, values or names at fault. -/
  details : List String
  severity : Severity
  deriving DecidableEq

namespace Finding

/-- Whether the finding makes the script unfit to run. -/
def isError (f : Finding) : Bool := f.severity == .error

/-- The heading and the subtype of the defect. -/
def headline (f : Finding) : String := f.defect.heading.name ++ ": " ++ f.defect.subtype

/-- The finding in words, without its severity. -/
def describe (f : Finding) : String :=
  "line " ++ toString (f.line + 1) ++ ": " ++ f.headline ++
    if f.details.isEmpty then "" else " [" ++ String.intercalate ", " f.details ++ "]"

/-- The finding on a line of its own, with its severity. -/
def textLine (f : Finding) : String := f.severity.name ++ ": " ++ f.describe

/-- The entries of a finding as data. -/
def entries (f : Finding) : List (String × Value) :=
  [("line", .integer (f.line + 1)), ("type", .text f.defect.heading.name), ("subtype", .text f.defect.subtype),
    ("code", .text f.defect.code), ("details", .list (f.details.map .text)), ("severity", .text f.severity.name)]

end Finding

/-- The findings of a check, in the order of their lines. -/
abbrev Report := List Finding

namespace Report

/-- The findings that make the script unfit to run. -/
def errors (r : Report) : List Finding := r.filter Finding.isError

/-- The findings that do not. -/
def notes (r : Report) : List Finding := r.filter (!·.isError)

/-- Whether some finding makes the script unfit to run. -/
def hasErrors (r : Report) : Bool := r.any Finding.isError

/-- The report as text, one line for each finding. -/
def text (r : Report) : String := String.join (r.map fun f => f.textLine ++ "\n")

/-- The report as data. -/
def value (r : Report) : Value := .list (r.map fun f => .table f.entries)

/-- The report as JSON text. -/
def json (r : Report) : String := Json.render 0 r.value

end Report
end Narrative
