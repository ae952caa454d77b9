import Narrative.Proofs.Play.History
import Narrative.Proofs.Play.Recurrence
import Narrative.Proofs.Script.Bindings

/-!
Cursors stay in their script, whether or not a check accepts it. No jump leads past the last line
(`Script.Placed.lt_of_move`), so a line leaves the cursor on a line or at the end of the script
(`Playback.position_of_step`), and so do runs, however they end and whatever follows them
(`Script.runsWithin_of_parse`).
-/
namespace Narrative

variable {σ : Type} [Generator σ]

namespace Script.Placed
variable {script : Script} {ctx : Context}

/-- No line leads past the last one. -/
theorem lt_of_move (placed : script.Placed) {settings : PlaySettings} {seen : List Arrival} {chance : σ}
    {line : Line} {target : Nat}
    (jumps : (line.perform script settings ctx seen chance).move = .ok (.jump target)) : target < script.size := by
  have goes := goes_of_perform script settings ctx seen chance line
  rw [jumps] at goes
  cases goes with
  | bound bound => exact placed.lt_of_bound bound
  | inRange low high => omega

/-- A start leads to a line, or to where the cursor stands. -/
theorem le_of_entry (placed : script.Placed) {cursor : Cursor} (inside : cursor.position ≤ script.size) {start : Start}
    {position : Nat} (entered : script.entry ctx cursor start = .ok position) : position ≤ script.size := by
  cases start with
  | beginning =>
    cases entered
    exact Nat.zero_le _
  | resume =>
    cases entered
    exact inside
  | label name =>
    simp only [Script.entry] at entered
    split at entered
    · rename_i place bound
      cases entered
      exact Nat.le_of_lt (placed.lt_of_bound bound)
    · cases entered
  | suffixed base =>
    simp only [Script.entry] at entered
    split at entered
    · rename_i label chosen
      cases entered
      exact Nat.le_of_lt (placed.lt_of_bound (LabelTable.line?_of_suffixed chosen))
    · cases entered

end Script.Placed

omit [Generator σ] in
theorem Effect.position_of_course {effect : Effect σ} {position size : Nat} (inside : position < size)
    (jumps : ∀ target, effect.move = .ok (.jump target) → target < size) :
    (effect.course position).1.position ≤ size := by
  unfold course
  split
  · exact Nat.le_of_lt inside
  · exact inside
  · rename_i target jump
    exact Nat.le_of_lt (jumps target jump)
  · exact inside

omit [Generator σ] in
/-- Where a line ends a run and is no halt, the cursor stays on it. -/
theorem Effect.position_of_ended {effect : Effect σ} {position : Nat} {ending : Ending}
    (ended : (effect.course position).2 = some ending) (other : ending ≠ .broke) :
    (effect.course position).1.position = position := by
  unfold course at ended ⊢
  split at ended
  · rfl
  · cases ended
  · cases ended
  · cases ended
    exact absurd rfl other

namespace Playback

section
variable {script : Script} {settings : PlaySettings} {ctx : Context} {state last : Playback σ} {line : Line}

theorem position_of_step (placed : script.Placed) (here : script.line? state.cursor.position = some line) :
    (state.step script settings ctx line).1.cursor.position ≤ script.size := by
  have inside : state.cursor.position < script.size := (List.getElem?_eq_some_iff.mp here).1
  rw [step_eq]
  dsimp only
  split
  · exact Effect.position_of_course inside fun target jumps => placed.lt_of_move jumps
  · exact Nat.le_of_lt inside

/-- A fault of a line, or of the presenter at its calls, leaves the cursor on the line. -/
theorem position_of_raised {ending : Ending} (ends : state.step script settings ctx line = (last, some ending))
    (other : ending ≠ .broke) : last.cursor.position = state.cursor.position := by
  rw [step_eq] at ends
  dsimp only at ends
  split at ends
  · obtain ⟨reached, ended⟩ := Prod.mk.inj ends
    rw [← reached]
    exact Effect.position_of_ended ended other
  · cases ends
    rfl

theorem position_of_advance (placed : script.Placed) (inside : state.cursor.position ≤ script.size) (allowed : Nat) :
    (state.advance script settings ctx allowed).1.cursor.position ≤ script.size := by
  induction allowed, state using advance_induction σ script settings ctx with
  | finished allowed state outside => rwa [advance_finished outside]
  | stopped state line here => rwa [advance_zero here]
  | last allowed state line final ending here ends =>
    have reached : (state.step script settings ctx line).1.cursor.position ≤ script.size := position_of_step placed here
    rw [advance_of_last here ends]
    rwa [ends] at reached
  | next allowed state line next here continues ih =>
    have reached : (state.step script settings ctx line).1.cursor.position ≤ script.size := position_of_step placed here
    rw [advance_of_next here continues]
    rw [continues] at reached
    exact ih reached

/-- A run finishes where no line is left. -/
theorem line?_of_finished {allowed : Nat} (ended : state.advance script settings ctx allowed = (last, some .finished)) :
    script.line? last.cursor.position = none := by
  induction allowed, state using advance_induction σ script settings ctx with
  | finished allowed state outside =>
    rw [advance_finished outside] at ended
    cases ended
    exact outside
  | stopped state line here =>
    rw [advance_zero here] at ended
    cases ended
  | last allowed state line final ending here ends =>
    rw [advance_of_last here ends] at ended
    cases ended
    rcases ending_of_step _ _ _ _ _ ends with broke | failed | ⟨fault, faulty, _⟩
    · cases broke
    · cases failed
    · cases faulty
  | next allowed state line next here continues ih =>
    rw [advance_of_next here continues] at ended
    exact ih ended

end
end Playback

namespace Script

/-- What every run from a playback keeps. The cursor stays in the script, also on the way of a run that never ends, and
    a run that ends leaves it where its ending says: at the end of the script, behind a halt, on the line that raised
    the ending, or on the line for which the number of lines was spent. -/
structure RunsWithin (script : Script) (settings : PlaySettings) (ctx : Context) (start : Start) (state : Playback σ) :
    Prop where
  before : state.cursor.position ≤ script.size
  along : ∀ position, script.entry ctx state.cursor start = .ok position → ∀ lines,
    (Playback.advance script settings ctx lines
      { state with cursor := state.cursor.moveTo position }).1.cursor.position ≤ script.size
  after : (script.run settings ctx start state).1.cursor.position ≤ script.size
  finished : (script.run settings ctx start state).2 = .finished →
    (script.run settings ctx start state).1.cursor.position = script.size
  broke : (script.run settings ctx start state).2 = .broke → ∃ place line, script.line? place = some line ∧
    line.isHalt = true ∧ (script.run settings ctx start state).1.cursor.position = place + 1
  raised : ∀ visit ∈ script.visits settings ctx start state, ∀ last ending,
    visit.1.step script settings ctx visit.2 = (last, some ending) → ending ≠ .broke →
      script.run settings ctx start state = (last, ending) ∧ last.cursor.position = visit.2.index ∧
        script.line? last.cursor.position = some visit.2
  lost : ∀ fault, script.entry ctx state.cursor start = .error fault →
    script.run settings ctx start state = (state, .fault fault)
  /-- There are no other endings. -/
  accounted : (script.run settings ctx start state).2 = .finished ∨ (script.run settings ctx start state).2 = .broke ∨
    (∃ fault, script.entry ctx state.cursor start = .error fault) ∨
    (∃ visit ∈ script.visits settings ctx start state, visit.1.step script settings ctx visit.2 =
      ((script.run settings ctx start state).1, some (script.run settings ctx start state).2)) ∨
    (script.run settings ctx start state).2 = cutOff settings ∧
      (script.run settings ctx start state).1.cursor.position < script.size

section
variable {script : Script} {settings : PlaySettings} {ctx : Context} {start : Start} {state : Playback σ}

theorem position_of_run (placed : script.Placed) (inside : state.cursor.position ≤ script.size) :
    (script.run settings ctx start state).1.cursor.position ≤ script.size := by
  cases entered : script.entry ctx state.cursor start with
  | error fault => rwa [run_of_error entered]
  | ok position =>
    have moved : ({ state with cursor := state.cursor.moveTo position } : Playback σ).cursor.position ≤ script.size :=
      placed.le_of_entry inside entered
    rw [run_of_entry entered]
    exact Playback.position_of_advance placed moved _

/-- A run that finds its start advances from there, and is cut off where no line ends it. -/
theorem run_outcome (settings : PlaySettings) {position : Nat}
    (entered : script.entry ctx state.cursor start = .ok position) :
    ∃ verdict, Playback.advance script settings ctx (script.allowed settings state.presenter)
        { state with cursor := state.cursor.moveTo position } = ((script.run settings ctx start state).1, verdict) ∧
      (script.run settings ctx start state).2 = verdict.getD (cutOff settings) := by
  rw [run_of_entry entered]
  exact ⟨_, rfl, rfl⟩

theorem visits_of_entry {position : Nat} (entered : script.entry ctx state.cursor start = .ok position) :
    script.visits settings ctx start state = Playback.visits script settings ctx
      (script.allowed settings state.presenter) { state with cursor := state.cursor.moveTo position } := by
  rw [visits, entered]

theorem position_of_finished (placed : script.Placed) (inside : state.cursor.position ≤ script.size)
    (ended : (script.run settings ctx start state).2 = .finished) :
    (script.run settings ctx start state).1.cursor.position = script.size := by
  have within : (script.run settings ctx start state).1.cursor.position ≤ script.size := position_of_run placed inside
  cases entered : script.entry ctx state.cursor start with
  | error fault =>
    rw [run_of_error entered] at ended
    cases ended
  | ok position =>
    obtain ⟨verdict, reached, closes⟩ := run_outcome settings entered
    rw [ended] at closes
    cases verdict with
    | none => exact absurd closes (ne_cutOff (by simp) (by simp) settings)
    | some ending =>
      cases closes
      have outside : script.size ≤ (script.run settings ctx start state).1.cursor.position :=
        List.getElem?_eq_none_iff.mp (Playback.line?_of_finished reached)
      omega

/-- A visit whose line raises an ending is the last, and the cursor stays on its line. -/
theorem run_of_raised (placed : script.Placed) {visit : Playback σ × Line}
    (member : visit ∈ script.visits settings ctx start state) {last : Playback σ} {ending : Ending}
    (ends : visit.1.step script settings ctx visit.2 = (last, some ending)) (other : ending ≠ .broke) :
    script.run settings ctx start state = (last, ending) ∧ last.cursor.position = visit.2.index ∧
      script.line? last.cursor.position = some visit.2 := by
  cases entered : script.entry ctx state.cursor start with
  | error fault =>
    rw [visits, entered] at member
    cases member
  | ok position =>
    rw [visits_of_entry entered] at member
    have here := Playback.line?_of_visit member
    rw [run_of_entry entered, (Playback.advance_of_visit member ends).1, Playback.position_of_raised ends other]
    exact ⟨rfl, (placed.index here).symm, here⟩

theorem run_accounted : (script.run settings ctx start state).2 = .finished ∨
    (script.run settings ctx start state).2 = .broke ∨ (∃ fault, script.entry ctx state.cursor start = .error fault) ∨
    (∃ visit ∈ script.visits settings ctx start state, visit.1.step script settings ctx visit.2 =
      ((script.run settings ctx start state).1, some (script.run settings ctx start state).2)) ∨
    (script.run settings ctx start state).2 = cutOff settings ∧
      (script.run settings ctx start state).1.cursor.position < script.size := by
  cases entered : script.entry ctx state.cursor start with
  | error fault => exact .inr (.inr (.inl ⟨fault, rfl⟩))
  | ok position =>
    obtain ⟨verdict, reached, closes⟩ := run_outcome settings entered
    cases verdict with
    | none =>
      obtain ⟨line, here⟩ := Playback.line_of_advance reached
      exact .inr (.inr (.inr (.inr ⟨closes, (List.getElem?_eq_some_iff.mp here).1⟩)))
    | some ending =>
      rcases Playback.visit_of_advance reached with finished | ⟨visit, final, steps⟩
      · exact .inl (closes.trans finished)
      · refine .inr (.inr (.inr (.inl ⟨visit, ?_, ?_⟩)))
        · rw [visits_of_entry entered]
          exact List.mem_of_getLast? final
        · rw [steps, closes]
          rfl

theorem runsWithin (placed : script.Placed) (inside : state.cursor.position ≤ script.size) :
    script.RunsWithin settings ctx start state where
  before := inside
  along position entered lines := by
    have moved : ({ state with cursor := state.cursor.moveTo position } : Playback σ).cursor.position ≤ script.size :=
      placed.le_of_entry inside entered
    exact Playback.position_of_advance placed moved lines
  after := position_of_run placed inside
  finished ended := position_of_finished placed inside ended
  broke halted := position_of_broke (Prod.ext rfl halted)
  raised visit member last ending ends other := run_of_raised placed member ends other
  lost fault entered := run_of_error entered
  accounted := run_accounted

theorem position_of_after (placed : script.Placed) {κ : Type} [DecidableEq κ] (turns : List (Turn σ κ))
    (c : κ) : ((Scene.after script turns).cursors c).position ≤ script.size := by
  refine Scene.after_induction (motive := fun cursor _ => cursor.position ≤ script.size) ?_ ?_ (Nat.zero_le _) turns c
  · intro settings ctx start state past inside
    exact position_of_run placed inside
  · intro cursor past inside
    exact inside

end

end Script

/-- The places that a line looks up are in its lists, and the bounds of what it draws are in order. -/
structure Line.InBounds (ctx : Context) (line : Line) : Prop where
  counted : ∀ labels, line.directive? = some (.numSwitchJump labels) →
    ∃ inside : min ctx.number.toNat (labels.length - 1) < labels.length,
      countedLabel? ctx.number labels = some labels[min ctx.number.toNat (labels.length - 1)]
  drawn : ∀ min max, line.directive? = some (.pause min max) →
    min ≤ max ∧ ∀ {σ : Type} [Generator σ] (chance : σ),
      min ≤ (Generator.draw min max chance).1 ∧ (Generator.draw min max chance).1 ≤ max

theorem Line.inBounds (ctx : Context) (line : Line) : line.InBounds ctx := by
  constructor
  · intro labels written
    obtain ⟨keyword, args, _, read⟩ := Line.directive?_eq_some_iff.mp written
    have positive : 0 < labels.length := List.length_pos_iff.mpr (Directive.labels_ne_nil_of_read read)
    have inside : min ctx.number.toNat (labels.length - 1) < labels.length := by omega
    exact ⟨inside, List.getElem?_eq_getElem inside⟩
  · intro min max written
    obtain ⟨keyword, args, _, read⟩ := Line.directive?_eq_some_iff.mp written
    have ordered := Directive.le_of_read read
    exact ⟨ordered, fun chance => Generator.draw_mem ordered chance⟩

/-- Whatever a source writes, and whether or not a check accepts it: after any turns on any cursors, with whatever
    starts, settings, story states and failures of the presenter, the next run stays in the script and leaves its cursor
    where its ending says. The places that a line looks up are in its lists, and those in the index of labels are
    entries with the name that was looked up, on the line to which it is bound. -/
theorem Script.runsWithin_of_parse {σ κ : Type} [Generator σ] [DecidableEq κ] (name source : String)
    (turns : List (Turn σ κ)) (c : κ) (settings : PlaySettings) (ctx : Context) (start : Start) (chance : σ)
    (presenter : Presenter) :
    let script := parse name source
    let labels := IndexedLabels.ofLines script.lines
    script.RunsWithin settings ctx start ⟨(Scene.after script turns).cursors c, chance, presenter⟩ ∧
    (∀ line ∈ script.lines, line.InBounds ctx) ∧
    (∀ label place, labels.index label = some place → ∃ inside : place < labels.entries.length,
      labels.entries[place].name = label ∧ script.labels.line? label = some labels.entries[place].line) ∧
    ∀ label, labels.index label = none → script.labels.line? label = none := by
  intro script labels
  have placed : script.Placed := placed_of_parse name source
  have keeps : labels.Keeps script.labels := IndexedLabels.keeps_ofLines script.lines
  refine ⟨runsWithin placed (position_of_after placed turns c), fun line _ => line.inBounds ctx, ?_, ?_⟩
  · intro label place known
    obtain ⟨entry, here, named, bound⟩ := keeps.exists_entry known
    obtain ⟨short, rfl⟩ := List.getElem?_eq_some_iff.mp here
    exact ⟨short, named, bound⟩
  · intro label unknown
    exact keeps.line?_of_none unknown

end Narrative
