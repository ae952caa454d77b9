import Narrative.Play.Call
import Narrative.Play.Cursor
import Narrative.Play.Fault
import Narrative.Play.Gate
import Narrative.Play.Generator
import Narrative.Play.Settings

/-!
What one line does: the calls that it makes, in order, and where the run goes then. Where it goes
depends on the script, the context and the arrivals so far, never on chance or on the settings. A
line that its gates block makes no call and remembers nothing.
-/
namespace Narrative

/-- Where a run goes after a line. -/
inductive Move where
  | next
  /-- Another line, counted from 0. -/
  | jump (target : Nat)
  /-- The run ends before the next line. -/
  | halt
  deriving DecidableEq

/-- The move to a label. -/
def Script.goTo (script : Script) (label : String) : Except Fault Move :=
  match script.labels.line? label with
  | some line => .ok (.jump line)
  | none => .error (.unknownLabel label)

/-- The first label whose persona is present, and otherwise the first that is for no persona. -/
def presentLabel? (voices : Voices) (labels : List String) : Option String :=
  (labels.find? fun l => (labelPersona? l).any voices.contains).or
    (labels.find? fun l => (labelPersona? l).isNone)

/-- The label at the place of a counter, which is held within the list. -/
def countedLabel? (number : Int) (labels : List String) : Option String :=
  labels[min number.toNat (labels.length - 1)]?

/-- The value that stands for every string without a pair of its own. -/
def anyValue : String := "*"

/-- The label paired with a string, and otherwise the one paired with every string. -/
def pairedLabel? (string : Option String) (pairs : List (String × String)) : Option String :=
  ((string.bind fun s => pairs.find? (·.1 == s)).or (pairs.find? (·.1 == anyValue))).map (·.2)

/-- The target for the state of the blade. -/
def bladeLabel (held former never : String) : Blade → String
  | .held => held
  | .former => former
  | .never => never

namespace Directive

/-- What an arrival at the directive of a line is remembered as. -/
def arrival? (ctx : Context) (index : Nat) : Directive → Option Arrival
  | firstSwitch _ => some (.first index)
  | moodSwitch _ => some (.mood index (ctx.hasFlag .harsh))
  | _ => none

/-- The move that a directive makes; `again` says whether this arrival has been made before. -/
def route (script : Script) (ctx : Context) (line : Line) (again : Bool) : Directive → Except Fault Move
  | label _ | pause _ _ | nowPlaying _ => .ok .next
  | jumpto (.label name) => script.goTo name
  | jumpto (.line n) =>
    if 1 ≤ n && n ≤ script.size then .ok (.jump (n.toNat - 1)) else .error (.lineOutOfRange line.number n)
  | halt => .ok (if line.hasFlagGate then .halt else .next)
  | firstSwitch target | moodSwitch target => if again then script.goTo target else .ok .next
  | sourceSwitch base =>
    match script.labels.suffixed? base ctx.source with
    | some chosen => .ok (.jump chosen.line)
    | none => .error (.noSwitchBranch line.number .sourceSwitch (.source ctx.source))
  | bladeSwitch held former never => script.goTo (bladeLabel held former never ctx.blade)
  | switchJump labels =>
    match presentLabel? ctx.voices labels with
    | some chosen => script.goTo chosen
    | none => .error (.noSwitchBranch line.number .switchJump (.voices ctx.voices))
  | numSwitchJump labels =>
    match countedLabel? ctx.number labels with
    | some chosen => script.goTo chosen
    | none => .error (.noSwitchBranch line.number .numSwitchJump .noLabels)
  | stringSwitchJump pairs =>
    match pairedLabel? ctx.string pairs with
    | some chosen => script.goTo chosen
    | none => .error (.noSwitchBranch line.number .stringSwitchJump (.string ctx.string))

/-- The calls that a directive makes, and the source of chance after them. -/
def calls {σ : Type} [Generator σ] (settings : PlaySettings) (chance : σ) : Directive → List Call × σ
  | pause min max =>
    let (length, chance) := if min == max then (min, chance) else Generator.draw min max chance
    ([.pause (.ofSeconds (Float.ofNat length * PlaySettings.nonNegative settings.pauseScale))], chance)
  | nowPlaying track => ([.nowPlaying track], chance)
  | _ => ([], chance)

end Directive

/-- What a line does. -/
structure Effect (σ : Type) where
  calls : List Call
  seen : List Arrival
  chance : σ
  move : Except Fault Move

/-- The calls that present a line of dialogue. -/
def Line.speech (settings : PlaySettings) (line : Line) (speaker : Speaker) (text : String) : List Call :=
  .present ⟨speaker, text, line.number, line.hasInterrupt⟩ ::
    if settings.wait && !line.hasInterrupt then [.acknowledge] else []

/-- What a line of a script does in a context, after some arrivals. -/
def Line.perform {σ : Type} [Generator σ] (script : Script) (settings : PlaySettings) (ctx : Context)
    (seen : List Arrival) (chance : σ) (line : Line) : Effect σ :=
  if !line.runsIn ctx then ⟨[], seen, chance, .ok .next⟩
  else
    match line.content with
    | .blank => ⟨[], seen, chance, .ok .next⟩
    | .dialogue speaker text _ => ⟨line.speech settings speaker text, seen, chance, .ok .next⟩
    | .directive keyword args =>
      match Directive.read keyword args with
      | .error _ => ⟨[], seen, chance, .error (.malformedDirective line.number keyword)⟩
      | .ok directive =>
        let (calls, chance) := directive.calls settings chance
        match directive.arrival? ctx line.index with
        | some arrival =>
          ⟨calls, arrive seen arrival, chance, directive.route script ctx line (seen.contains arrival)⟩
        | none => ⟨calls, seen, chance, directive.route script ctx line false⟩

end Narrative
