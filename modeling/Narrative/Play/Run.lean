import Narrative.Play.Perform

/-!
Runs of a script. A run executes lines from where it starts until the script is over, a line halts
it, a line has a fault, the presenter fails, or the settings allow no further line. With any number
of lines allowed it may also never end. This is known after as many lines as there are pairs of a
line and a number of arrivals (`Script.patience`), because a run that goes on longer comes back to
where it was with nothing new remembered. A presenter that is going to fail still ends such a run if
it calls again and again, so then as many lines are waited for from each call to the next
(`Script.horizon`).
-/
namespace Narrative

/-- How a run ends. -/
inductive Ending where
  /-- No line is left. -/
  | finished
  /-- A line halted the run; the cursor stands on the line after it. -/
  | broke
  | fault (fault : Fault)
  | deviceFailed
  /-- The run would go on for ever. -/
  | endless
  deriving DecidableEq

/-- The state of a run between two lines. -/
structure Playback (σ : Type) where
  cursor : Cursor := {}
  chance : σ
  presenter : Presenter := {}
  deriving DecidableEq

namespace Playback
variable {σ : Type} [Generator σ]

/-- The playback after a line, with its ending if the run is over. Where a call fails or the line has a
fault, the cursor stays on the line. -/
def step (script : Script) (settings : PlaySettings) (ctx : Context) (state : Playback σ) (line : Line) :
    Playback σ × Option Ending :=
  let effect := line.perform script settings ctx state.cursor.seen state.chance
  let (presenter, received) := state.presenter.receiveAll effect.calls
  let stopped : Playback σ := ⟨⟨state.cursor.position, effect.seen⟩, effect.chance, presenter⟩
  if !received then (stopped, some .deviceFailed)
  else
    match effect.move with
    | .error fault => (stopped, some (.fault fault))
    | .ok .next => ({ stopped with cursor := ⟨state.cursor.position + 1, effect.seen⟩ }, none)
    | .ok (.jump target) => ({ stopped with cursor := ⟨target, effect.seen⟩ }, none)
    | .ok .halt => ({ stopped with cursor := ⟨state.cursor.position + 1, effect.seen⟩ }, some .broke)

/-- The playback after at most `allowed` lines, with its ending if the run is over by then. -/
def advance (script : Script) (settings : PlaySettings) (ctx : Context) :
    Nat → Playback σ → Playback σ × Option Ending
  | allowed, state =>
    match script.line? state.cursor.position with
    | none => (state, some .finished)
    | some line =>
      match allowed with
      | 0 => (state, none)
      | allowed + 1 =>
        match state.step script settings ctx line with
        | (state, none) => advance script settings ctx allowed state
        | (state, some ending) => (state, some ending)

end Playback

namespace Script

/-- Whether a line is a switch that remembers arrivals. -/
def remembers (line : Line) : Bool := line.keyword? == some .firstSwitch || line.keyword? == some .moodSwitch

/-- The number of lines that a run which ends can execute at most, if the presenter never fails. -/
def patience (script : Script) : Nat := script.size * (script.lines.countP remembers + 1)

/-- The number of lines after which a run that has not ended never does, with a presenter of a given
allowance. -/
def horizon (script : Script) : Allowance → Nat
  | none => script.patience
  | some calls => script.patience * (calls + 1)

/-- The line where a run begins. -/
def entry (script : Script) (ctx : Context) (cursor : Cursor) : Start → Except Fault Nat
  | .beginning => .ok 0
  | .resume => .ok cursor.position
  | .label name =>
    match script.labels.line? name with
    | some line => .ok line
    | none => .error (.unknownLabel name)
  | .suffixed base =>
    match script.labels.suffixed? base ctx.source with
    | some label => .ok label.line
    | none => .error (.unknownLabel (base ++ LabelTable.defaultSuffix))

/-- The playback after a run, and how the run ends. A start that leads nowhere leaves everything as it
is. -/
def run {σ : Type} [Generator σ] (script : Script) (settings : PlaySettings) (ctx : Context) (start : Start)
    (state : Playback σ) : Playback σ × Ending :=
  match script.entry ctx state.cursor start with
  | .error fault => (state, .fault fault)
  | .ok position =>
    let state := { state with cursor := state.cursor.moveTo position }
    if settings.stepLimit == 0 then
      let (state, ending) := state.advance script settings ctx (script.horizon state.presenter.allowance)
      (state, ending.getD .endless)
    else
      let (state, ending) := state.advance script settings ctx settings.stepLimit
      (state, ending.getD (.fault (.stepLimit settings.stepLimit)))

end Script
end Narrative
