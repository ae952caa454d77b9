import Narrative.Play.Run

/-!
The lines that a run executes. A visit is a line with the playback before it; a run is over after the
visit whose line ends it, and that visit is the last one (`advance_of_visit`, `visit_of_advance`).
-/
namespace Narrative

variable {σ : Type} [Generator σ]

namespace Playback

/-- The lines that at most `allowed` lines of a run execute, each with the playback before it. -/
def visits (script : Script) (settings : PlaySettings) (ctx : Context) : Nat → Playback σ → List (Playback σ × Line)
  | 0, _ => []
  | allowed + 1, state =>
    match script.line? state.cursor.position with
    | none => []
    | some line =>
      (state, line) ::
        match state.step script settings ctx line with
        | (next, none) => visits script settings ctx allowed next
        | (_, some _) => []

section
variable {script : Script} {settings : PlaySettings} {ctx : Context} {allowed : Nat} {state : Playback σ}

/-- A run goes on after a line that does not end it. -/
theorem advance_of_next {line : Line} {next : Playback σ} (here : script.line? state.cursor.position = some line)
    (continues : state.step script settings ctx line = (next, none)) :
    state.advance script settings ctx (allowed + 1) = next.advance script settings ctx allowed := by
  rw [advance, here]
  simp only [continues]

/-- A run ends with a line that ends it. -/
theorem advance_of_last {line : Line} {last : Playback σ} {ending : Ending}
    (here : script.line? state.cursor.position = some line)
    (ends : state.step script settings ctx line = (last, some ending)) :
    state.advance script settings ctx (allowed + 1) = (last, some ending) := by
  rw [advance, here]
  simp only [ends]

theorem visits_succ {line : Line} (here : script.line? state.cursor.position = some line) :
    state.visits script settings ctx (allowed + 1) =
      (state, line) ::
        match state.step script settings ctx line with
        | (next, none) => next.visits script settings ctx allowed
        | (_, some _) => [] := by
  rw [visits, here]

/-- Without an allowance a run stops at once before its next line. -/
theorem advance_zero {line : Line} (here : script.line? state.cursor.position = some line) :
    state.advance script settings ctx 0 = (state, none) := by
  rw [advance, here]

theorem advance_finished (ended : script.line? state.cursor.position = none) :
    state.advance script settings ctx allowed = (state, some .finished) := by
  rw [advance, ended]

theorem visits_finished (ended : script.line? state.cursor.position = none) :
    state.visits script settings ctx allowed = [] := by
  cases allowed with
  | zero => rfl
  | succ n => rw [visits, ended]

variable (σ) in
/-- Induction along a run: it is over, it stops before its next line, that line ends it, or it goes on after it. -/
theorem advance_induction (script : Script) (settings : PlaySettings) (ctx : Context)
    {motive : Nat → Playback σ → Prop}
    (finished : ∀ allowed state, script.line? state.cursor.position = none → motive allowed state)
    (stopped : ∀ state line, script.line? state.cursor.position = some line → motive 0 state)
    (last : ∀ allowed state line last ending, script.line? state.cursor.position = some line →
      state.step script settings ctx line = (last, some ending) → motive (allowed + 1) state)
    (next : ∀ allowed state line next, script.line? state.cursor.position = some line →
      state.step script settings ctx line = (next, none) → motive allowed next → motive (allowed + 1) state)
    (allowed : Nat) (state : Playback σ) : motive allowed state := by
  induction allowed generalizing state with
  | zero =>
    cases here : script.line? state.cursor.position with
    | none => exact finished 0 state here
    | some line => exact stopped state line here
  | succ allowed ih =>
    cases here : script.line? state.cursor.position with
    | none => exact finished (allowed + 1) state here
    | some line =>
      cases outcome : state.step script settings ctx line with
      | mk after verdict =>
        cases verdict with
        | some ending => exact last allowed state line after ending here outcome
        | none => exact next allowed state line after here outcome (ih after)

/-- A run executes lines of its script, each where the cursor stands. -/
theorem line?_of_visit {visit : Playback σ × Line} (member : visit ∈ state.visits script settings ctx allowed) :
    script.line? visit.1.cursor.position = some visit.2 := by
  induction allowed generalizing state with
  | zero => simp [visits] at member
  | succ n ih =>
    cases here : script.line? state.cursor.position with
    | none => simp [visits_finished here] at member
    | some line =>
      rw [visits_succ here] at member
      rcases List.mem_cons.mp member with rfl | later
      · exact here
      · split at later
        · exact ih later
        · simp at later

/-- A run comes to its visits one by one, and to each with its line before it. -/
theorem visits_getElem?_iff {place : Nat} {visit : Playback σ × Line} :
    (state.visits script settings ctx allowed)[place]? = some visit ↔
      place < allowed ∧ state.advance script settings ctx place = (visit.1, none) ∧
        script.line? visit.1.cursor.position = some visit.2 := by
  induction place generalizing allowed state with
  | zero =>
    cases allowed with
    | zero => simp [visits]
    | succ allowed =>
      cases here : script.line? state.cursor.position with
      | none => simp [visits_finished here, advance_finished here]
      | some line =>
        rw [visits_succ here, advance_zero here]
        constructor
        · rintro ⟨⟩
          exact ⟨Nat.succ_pos allowed, rfl, here⟩
        · rintro ⟨_, reached, there⟩
          cases reached
          rw [here] at there
          simp [Option.some.inj there]
  | succ place ih =>
    cases allowed with
    | zero => simp [visits]
    | succ allowed =>
      cases here : script.line? state.cursor.position with
      | none => simp [visits_finished here, advance_finished here]
      | some line =>
        rw [visits_succ here]
        cases outcome : state.step script settings ctx line with
        | mk after verdict =>
          cases verdict with
          | none => simp [advance_of_next here outcome, ih]
          | some ending => simp [advance_of_last here outcome]

/-- A smaller allowance executes the first of the lines. -/
theorem visits_take {fewer : Nat} (less : fewer ≤ allowed) :
    (state.visits script settings ctx allowed).take fewer = state.visits script settings ctx fewer := by
  induction fewer generalizing allowed state with
  | zero => rw [List.take_zero, visits]
  | succ fewer ih =>
    obtain ⟨allowed, rfl⟩ := Nat.exists_eq_add_of_le' less
    rw [← Nat.add_assoc]
    cases here : script.line? state.cursor.position with
    | none => simp [visits_finished here]
    | some line =>
      rw [visits_succ here, visits_succ here, List.take_succ_cons]
      cases outcome : state.step script settings ctx line with
      | mk after verdict =>
        cases verdict with
        | none => simp only [ih (Nat.le_add_left fewer allowed)]
        | some ending => simp only [List.take_nil]

/-- A visit whose line ends the run is the last one, and the run ends as the line does. -/
theorem advance_of_visit {visit : Playback σ × Line} (member : visit ∈ state.visits script settings ctx allowed)
    {last : Playback σ} {ending : Ending}
    (ends : visit.1.step script settings ctx visit.2 = (last, some ending)) :
    state.advance script settings ctx allowed = (last, some ending) ∧
      (state.visits script settings ctx allowed).getLast? = some visit := by
  induction allowed generalizing state with
  | zero => simp [visits] at member
  | succ n ih =>
    cases here : script.line? state.cursor.position with
    | none => simp [visits_finished here] at member
    | some line =>
      rw [visits_succ here] at member ⊢
      rcases List.mem_cons.mp member with rfl | later
      · simp only at ends
        simp [advance_of_last here ends, ends]
      · split at later
        · rename_i next continues
          obtain ⟨ended, final⟩ := ih later
          simp [advance_of_next here continues, ended, List.getLast?_cons, final]
        · simp at later

/-- A run that ends before the script is over ends with the line of its last visit. -/
theorem visit_of_advance {last : Playback σ} {ending : Ending}
    (ended : state.advance script settings ctx allowed = (last, some ending)) :
    ending = .finished ∨ ∃ visit, (state.visits script settings ctx allowed).getLast? = some visit ∧
      visit.1.step script settings ctx visit.2 = (last, some ending) := by
  induction allowed, state using advance_induction σ script settings ctx with
  | finished allowed state outside =>
    rw [advance_finished outside] at ended
    cases ended
    exact .inl rfl
  | stopped state line here =>
    rw [advance_zero here] at ended
    cases ended
  | last allowed state line final verdict here ends =>
    rw [advance_of_last here ends] at ended
    rw [visits_succ here, ends]
    exact .inr ⟨(state, line), rfl, ends.trans ended⟩
  | next allowed state line next here continues ih =>
    rw [advance_of_next here continues] at ended
    rw [visits_succ here, continues]
    rcases ih ended with finished | ⟨visit, final, steps⟩
    · exact .inl finished
    · exact .inr ⟨visit, by simp [List.getLast?_cons, final], steps⟩

end

end Playback

namespace Script

/-- The number of lines that a run may execute. -/
def allowed (script : Script) (settings : PlaySettings) (presenter : Presenter) : Nat :=
  if settings.stepLimit == 0 then script.horizon presenter.allowance else settings.stepLimit

/-- How a run ends that has executed all the lines that it may. -/
def cutOff (settings : PlaySettings) : Ending :=
  if settings.stepLimit == 0 then .endless else .fault (.stepLimit settings.stepLimit)

theorem allowed_of_pos (script : Script) {settings : PlaySettings} (positive : 1 ≤ settings.stepLimit)
    (presenter : Presenter) : script.allowed settings presenter = settings.stepLimit := by
  have limited : settings.stepLimit ≠ 0 := by omega
  simp [allowed, limited]

theorem allowed_of_unlimited (script : Script) {settings : PlaySettings} (unlimited : settings.stepLimit = 0)
    (presenter : Presenter) : script.allowed settings presenter = script.horizon presenter.allowance := by
  simp [allowed, unlimited]

theorem cutOff_of_pos {settings : PlaySettings} (positive : 1 ≤ settings.stepLimit) :
    cutOff settings = .fault (.stepLimit settings.stepLimit) := by
  have limited : settings.stepLimit ≠ 0 := by omega
  simp [cutOff, limited]

theorem cutOff_of_unlimited {settings : PlaySettings} (unlimited : settings.stepLimit = 0) :
    cutOff settings = .endless := by
  simp [cutOff, unlimited]

theorem ne_cutOff {ending : Ending} (closes : ending ≠ .endless)
    (free : ∀ limit, ending ≠ .fault (.stepLimit limit)) (settings : PlaySettings) : ending ≠ cutOff settings := by
  unfold cutOff
  split
  · exact closes
  · exact free settings.stepLimit

/-- The lines that a run from a start executes, each with the playback before it. -/
def visits (script : Script) (settings : PlaySettings) (ctx : Context) (start : Start) (state : Playback σ) :
    List (Playback σ × Line) :=
  match script.entry ctx state.cursor start with
  | .error _ => []
  | .ok position =>
    Playback.visits script settings ctx (script.allowed settings state.presenter)
      { state with cursor := state.cursor.moveTo position }

/-- A run from a start that leads somewhere advances from there as far as it may. -/
theorem run_of_entry {script : Script} {settings : PlaySettings} {ctx : Context} {start : Start} {state : Playback σ}
    {position : Nat} (entered : script.entry ctx state.cursor start = .ok position) :
    script.run settings ctx start state =
      let (last, ending) := Playback.advance script settings ctx (script.allowed settings state.presenter)
        { state with cursor := state.cursor.moveTo position }
      (last, ending.getD (cutOff settings)) := by
  rw [run, entered]
  by_cases unlimited : settings.stepLimit = 0 <;> simp [allowed, cutOff, unlimited]

end Script
end Narrative
