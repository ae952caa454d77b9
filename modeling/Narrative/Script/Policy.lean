import Narrative.Data.Value
import Narrative.Script.Defect

/-!
Settings of the check: severities other than the default ones, and whether notes count as errors.
-/
namespace Narrative

/-- How severe defects are. -/
structure Policy where
  /-- Severities that replace the default ones; of two for one defect the first counts. -/
  overrides : List (Defect × Severity) := []
  /-- Whether every defect is an error. -/
  strict : Bool := false
  deriving DecidableEq

namespace Policy

/-- The policy with the severity of one defect replaced. -/
def withSeverity (p : Policy) (d : Defect) (s : Severity) : Policy :=
  { p with overrides := (d, s) :: p.overrides }

/-- The policy with notes counted as errors, or not. -/
def withStrict (p : Policy) (strict : Bool) : Policy := { p with strict }

/-- The severity of a defect. -/
def severityOf (p : Policy) (d : Defect) : Severity :=
  if p.strict then .error else ((p.overrides.find? (·.1 == d)).map (·.2)).getD d.defaultSeverity

/-- Whether no defect that is an error by default is lowered to a note. -/
def KeepsErrors (p : Policy) : Prop := ∀ d : Defect, d.defaultSeverity = .error → p.severityOf d = .error

/-- The severity that a value names: a text does, and a table whose only key is the name and which says
nothing under it. -/
def severityOf? (isNothing : Value → Bool) : Value → Option Severity
  | .text name => Severity.ofName? name
  | .table [(name, content)] => if isNothing content then Severity.ofName? name else none
  | _ => none

/-- The replacements that a table of codes and severities lists. -/
def overridesOf? (isNothing : Value → Bool) : List (String × Value) → Option (List (Defect × Severity))
  | [] => some []
  | (code, value) :: rest => do
    let defect ← Defect.ofCode? code
    let severity ← severityOf? isNothing value
    let others ← overridesOf? isNothing rest
    pure ((defect, severity) :: others)

/-- The policy that a table of settings describes; missing keys keep their defaults. The kind of file tells
which values say nothing. -/
def ofValue? (isNothing : Value → Bool) (value : Value) : Option Policy := do
  let entries ← value.record? ["severity", "strict"]
  let overrides ← Value.fieldOr entries "severity" [] fun v => v.table?.bind (overridesOf? isNothing)
  let strict ← Value.fieldOr entries "strict" false Value.bool?
  pure { overrides, strict }

end Policy
end Narrative
