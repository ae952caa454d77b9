/-!
Devices that may fail: a presenter of scripts, a screen, a keyboard.
-/
namespace Narrative

/-- How many uses of a device will succeed before one fails; `none` where none ever fails. -/
abbrev Allowance := Option Nat

/-- The allowance after a use, if that succeeds. -/
def Allowance.spend? : Allowance → Option Allowance
  | none => some none
  | some 0 => none
  | some (n + 1) => some (some n)

/-- What is said of a device that fails. -/
def deviceMessage : String := "console I/O failed: device failed"

end Narrative
