import Mathlib.Data.List.Forall2
import Narrative.Proofs.Play.Patience

/-!
Blocked lines are invisible. What a line that its gates block does is what a blank line does, and a label has no gates
(`runsIn_of_label`), so a script with blank lines in their place has the same labels and does the same, line by line
(`Script.Cleared.step`). Hence both run the same, from any start and under any limit (`run_of_cleared`).
-/
namespace Narrative

variable {σ : Type} [Generator σ]

/-- A line, and the line in its place where those that their gates block in a story state are blank. -/
inductive Line.Cleared (ctx : Context) (line other : Line) : Prop where
  | blocked (blocked : line.runsIn ctx = false) (blank : other.content = .blank)
  /-- Any other line keeps what it says and does, but not its bytes in the source. -/
  | kept (runs : line.runsIn ctx = true) (index : other.index = line.index) (content : other.content = line.content)
      (modifiers : other.modifiers = line.modifiers)

/-- A script, and another one with a blank line for every line that is blocked in a story state. -/
def Script.Cleared (ctx : Context) (script cleared : Script) : Prop :=
  List.Forall₂ (Line.Cleared ctx) script.lines cleared.lines

/-- A line that is blocked in a story state, as a line without a text. -/
def Line.withoutBlocked (ctx : Context) (line : Line) : Line :=
  if line.runsIn ctx then line else { line with raw := "", content := .blank, block := .absent }

/-- The script with its blocked lines blanked out. -/
def Script.withoutBlocked (ctx : Context) (script : Script) : Script :=
  { script with lines := script.lines.map (Line.withoutBlocked ctx) }

theorem Script.cleared_withoutBlocked (ctx : Context) (script : Script) :
    script.Cleared ctx (script.withoutBlocked ctx) := by
  refine List.forall₂_map_right_iff.mpr (List.forall₂_same.mpr fun line _ => ?_)
  by_cases runs : line.runsIn ctx = true
  · have same : line.withoutBlocked ctx = line := by simp [Line.withoutBlocked, runs]
    exact .kept runs (by rw [same]) (by rw [same]) (by rw [same])
  · have blocked : line.runsIn ctx = false := Bool.eq_false_iff.mpr runs
    exact .blocked blocked (by simp [Line.withoutBlocked, blocked])

theorem runsIn_of_label {line : Line} (label : line.keyword? = some .label) (ctx : Context) :
    line.runsIn ctx = true := by
  have ignores : line.content.ignoresModifiers = true := by
    unfold Line.keyword? at label
    split at label
    · rename_i keyword args content
      rw [content, Option.some.inj label]
      rfl
    · cases label
  have without : line.modifiers = [] := by rw [Line.modifiers, if_pos ignores]
  exact runsIn_of_ungated (by rw [Line.gates, without]; rfl) ctx

theorem definition?_of_blocked {line : Line} {ctx : Context} (blocked : line.runsIn ctx = false) :
    line.definition? = none := by
  cases defines : line.definition? with
  | none => rfl
  | some label =>
    rw [runsIn_of_label (Line.keyword?_of_definition defines) ctx] at blocked
    cases blocked

/-- Blanking out blocked lines takes no label away. -/
theorem Line.Cleared.definition? {ctx : Context} {line other : Line} (pair : Line.Cleared ctx line other) :
    other.definition?.map (Label.mk · other.index) = line.definition?.map (Label.mk · line.index) := by
  cases pair with
  | blocked blocked blank =>
    have nothing : other.definition? = none := by simp [Line.definition?, Line.directive?, Content.directive?, blank]
    rw [nothing, definition?_of_blocked blocked]
    rfl
  | kept runs index content modifiers => simp only [Line.definition?, Line.directive?, content, index]

/-- A blocked line calls nobody, remembers nothing and passes the run on. -/
theorem step_of_blocked {line : Line} {ctx : Context} (blocked : line.runsIn ctx = false) (script : Script)
    (settings : PlaySettings) (state : Playback σ) :
    state.step script settings ctx line =
      ({ state with cursor := state.cursor.moveTo (state.cursor.position + 1) }, none) := by
  rw [Playback.step_eq, perform_of_blocked script settings ctx _ _ blocked]
  rfl

namespace Script.Cleared
variable {ctx : Context} {script cleared : Script}

theorem size (clears : script.Cleared ctx cleared) : cleared.size = script.size := (List.Forall₂.length_eq clears).symm

theorem labels (clears : script.Cleared ctx cleared) : cleared.labels = script.labels :=
  Script.labels_congr (List.Forall₂.imp (fun _ _ pair => pair.definition?) clears)

/-- Line by line, both scripts do the same. -/
theorem step (clears : script.Cleared ctx cleared) {line other : Line} (pair : Line.Cleared ctx line other)
    (settings : PlaySettings) (state : Playback σ) :
    state.step cleared settings ctx other = state.step script settings ctx line := by
  cases pair with
  | blocked blocked blank =>
    rw [step_of_blocked blocked, Playback.step_eq, perform_of_blank cleared settings ctx _ _ blank]
    rfl
  | kept runs index content modifiers =>
    rw [Playback.step_eq, Playback.step_eq, perform_of_kept clears.labels clears.size index content modifiers]

theorem advance (clears : script.Cleared ctx cleared) (settings : PlaySettings) (lines : Nat) (state : Playback σ) :
    state.advance cleared settings ctx lines = state.advance script settings ctx lines :=
  Playback.advance_of_pairs clears fun pair state => clears.step pair settings state

end Script.Cleared

/-- In a story state, lines that their gates block are invisible, in any script, accepted or not. Such a line, which is
    never a label, only passes the run on to the next line. Where blank lines stand in place of them, runs come to the
    same playback after any number of lines, so from any start, in any state and under any limit they make the same
    calls and end in the same way, at the same cursor. Only where a run that never ends is left off may differ. -/
theorem run_of_cleared (σ : Type) [Generator σ] {ctx : Context} {script cleared : Script}
    (clears : script.Cleared ctx cleared) :
    (∀ line ∈ script.lines, line.keyword? = some .label → ∀ ctx, line.runsIn ctx = true) ∧
    (∀ line ∈ script.lines, line.runsIn ctx = false → ∀ settings (state : Playback σ),
      state.step script settings ctx line =
        ({ state with cursor := state.cursor.moveTo (state.cursor.position + 1) }, none)) ∧
    (∀ settings lines (state : Playback σ),
      state.advance cleared settings ctx lines = state.advance script settings ctx lines) ∧
    ∀ settings start (state : Playback σ),
      (cleared.run settings ctx start state).2 = (script.run settings ctx start state).2 ∧
        ((script.run settings ctx start state).2 ≠ .endless →
          cleared.run settings ctx start state = script.run settings ctx start state) := by
  refine ⟨fun line _ label => runsIn_of_label label, ?_, clears.advance, ?_⟩
  · intro line _ blocked settings state
    exact step_of_blocked blocked script settings state
  · intro settings start state
    exact Script.run_of_advance_eq (Script.entry_congr clears.labels ctx state.cursor start) (clears.advance settings)

/-- A switch, a jump, a halt and a pause that are blocked while nobody holds the blade. -/
theorem run_of_cleared_unarmed :
    let script := Script.parse "unarmed"
      ("label start\nfirstswitch seen_end /// hasblade\njumpto start /// hasblade\nbreak /// hasblade\n" ++
        "pause 2 /// hasblade\nlabel seen_end\nHero: Go.")
    let cleared := script.withoutBlocked .blank
    let state : Playback Tape := { chance := {} }
    script.accepted {} = true ∧ (cleared.lines.map (·.content)).count .blank = 4 ∧ ∃ last,
      script.run {} .blank .beginning state = (last, .finished) ∧ last.presenter.calls.size = 2 ∧
      cleared.run {} .blank .beginning state = (last, .finished) := by
  intro script cleared state
  have facts : script.accepted {} = true ∧ (cleared.lines.map (·.content)).count .blank = 4 ∧
      (script.run {} .blank .beginning state).2 = .finished ∧
      (script.run {} .blank .beginning state).1.presenter.calls.size = 2 := by
    decide +kernel
  obtain ⟨accepted, blanks, finished, calls⟩ := facts
  obtain ⟨_, _, _, runs⟩ := run_of_cleared Tape (script.cleared_withoutBlocked .blank)
  have ran := Prod.snd_eq_iff.mp finished
  have same := (runs {} .beginning state).2 (fun endless => nomatch finished.symm.trans endless)
  exact ⟨accepted, blanks, _, ran, calls, same.trans ran⟩

end Narrative
