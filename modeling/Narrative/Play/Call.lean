import Narrative.Cast.Speaker
import Narrative.Device
import Narrative.Play.Duration

/-!
What a run asks of whoever presents it, call by call. A presenter may fail at some call; it keeps
the calls that succeeded before.
-/
namespace Narrative

/-- A line as it is presented. -/
structure SpokenLine where
  speaker : Speaker
  text : String
  /-- The number of the line in its script, counted from 1. -/
  line : Nat
  /-- Whether the next line follows without waiting. -/
  interrupt : Bool
  deriving DecidableEq

/-- The line as plain text: narrators speak without a name in front. -/
def SpokenLine.plain (line : SpokenLine) : String :=
  if line.speaker.isNarrator then line.text else line.speaker.title ++ ": " ++ line.text

/-- A call to a presenter. -/
inductive Call where
  | present (line : SpokenLine)
  /-- Wait until the player has taken note of the last line. -/
  | acknowledge
  | pause (length : Duration)
  | nowPlaying (track : String)
  deriving DecidableEq

/-- The line of text that announces a track. -/
def trackLine (track : String) : String := "~ Now playing: " ++ track ++ " ~"

namespace Call

/-- The text of a presented line. -/
def spoken? : Call → Option String
  | present line => some line.text
  | _ => none

/-- The line of text that a call puts on a plain screen. -/
def written? : Call → Option String
  | present line => some line.plain
  | nowPlaying track => some (trackLine track)
  | _ => none

end Call

/-- A presenter and what it has received. -/
structure Presenter where
  /-- The calls that succeeded, in order. -/
  calls : Array Call := #[]
  allowance : Allowance := none
  deriving DecidableEq

namespace Presenter

/-- The presenter after a call, if that succeeds. -/
def receive? (p : Presenter) (call : Call) : Option Presenter :=
  p.allowance.spend?.map fun left => ⟨p.calls.push call, left⟩

/-- The presenter after calls up to the first that fails, and whether all of them succeeded. -/
def receiveAll (p : Presenter) : List Call → Presenter × Bool
  | [] => (p, true)
  | call :: rest =>
    match p.receive? call with
    | some p => p.receiveAll rest
    | none => (p, false)

end Presenter
end Narrative
