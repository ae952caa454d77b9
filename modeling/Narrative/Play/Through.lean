import Narrative.Play.Run

/-!
Playing a script on after each halt, until it ends in another way. A script that halts more often than a
run that ends can execute lines comes back to where it was, and never ends.
-/
namespace Narrative

/-- A piece of what is played. -/
inductive Moment where
  | call (call : Call)
  /-- The script halted before a line, counted from 1. -/
  | halted (line : Nat)
  deriving DecidableEq

/-- The line of text for a moment, if it has one. -/
def Moment.written? : Moment → Option String
  | call c => c.written?
  | halted line => some ("-- break before line " ++ toString line ++ " --")

namespace Script
variable {σ : Type} [Generator σ]

/-- What is played by at most a number of runs, each but the first from where the one before halted, and
how the last one ends. -/
def playRuns (script : Script) (settings : PlaySettings) (ctx : Context) :
    (runs : Nat) → Start → Cursor → σ → List Moment × Ending
  | 0, _, _, _ => ([], .endless)
  | runs + 1, start, cursor, chance =>
    let (state, ending) := script.run settings ctx start ⟨cursor, chance, {}⟩
    let played := state.presenter.calls.toList.map Moment.call
    match ending with
    | .broke =>
      let (later, ending) := playRuns script settings ctx runs .resume state.cursor state.chance
      (played ++ .halted (state.cursor.position + 1) :: later, ending)
    | ending => (played, ending)

variable (σ) in
/-- What is played of a script from a start, on past every halt, and how that ends. -/
def playThrough (script : Script) (settings : PlaySettings) (ctx : Context) (start : Start) : List Moment × Ending :=
  script.playRuns settings ctx (script.patience + 1) start {} (Generator.ofSeed settings.seed : σ)

end Script
end Narrative
