import Narrative.Proofs.Play.Control
import Narrative.Proofs.Play.Visits

/-!
Where runs end. A run that is given enough lines ends or goes on for ever; `Playback.Ends` says after how many
lines it ends, and in which playback, whatever it is allowed. An allowance that covers these lines reaches the
end (`Ends.advance`), and a smaller one stops on the way, with the rest of the lines before it (`Ends.split`).
-/
namespace Narrative

variable {σ : Type} [Generator σ]

namespace Playback

/-- A run from a playback ends after a number of lines: it leaves a last playback behind, and ends in some way. -/
inductive Ends (script : Script) (settings : PlaySettings) (ctx : Context) :
    Nat → Playback σ → Playback σ → Ending → Prop where
  /-- No line is left. -/
  | finished {state : Playback σ} (outside : script.line? state.cursor.position = none) :
      Ends script settings ctx 0 state state .finished
  /-- The next line ends the run. -/
  | last {state last : Playback σ} {line : Line} {ending : Ending}
      (here : script.line? state.cursor.position = some line)
      (ends : state.step script settings ctx line = (last, some ending)) :
      Ends script settings ctx 1 state last ending
  /-- The run goes on after the next line. -/
  | next {state next last : Playback σ} {line : Line} {lines : Nat} {ending : Ending}
      (here : script.line? state.cursor.position = some line)
      (continues : state.step script settings ctx line = (next, none))
      (rest : Ends script settings ctx lines next last ending) :
      Ends script settings ctx (lines + 1) state last ending

section
variable {script : Script} {settings : PlaySettings} {ctx : Context} {state last : Playback σ} {lines allowed : Nat}
  {ending : Ending}

/-- An allowance that covers the lines of a run reaches its end. -/
theorem Ends.advance (ends : Ends script settings ctx lines state last ending) (enough : lines ≤ allowed) :
    state.advance script settings ctx allowed = (last, some ending) := by
  induction ends generalizing allowed with
  | finished outside => exact advance_finished outside
  | last here ends =>
    obtain ⟨more, rfl⟩ := Nat.exists_eq_add_of_le' enough
    exact advance_of_last here ends
  | @next state next last line lines ending here continues rest ih =>
    obtain ⟨more, rfl⟩ := Nat.exists_eq_add_of_le' enough
    have covered : lines ≤ more + lines := Nat.le_add_left lines more
    rw [← Nat.add_assoc, advance_of_next here continues]
    exact ih covered

/-- A smaller allowance stops a run on the way, with the rest of its lines before it. -/
theorem Ends.split (ends : Ends script settings ctx lines state last ending) (short : allowed < lines) :
    ∃ between, state.advance script settings ctx allowed = (between, none) ∧
      Ends script settings ctx (lines - allowed) between last ending := by
  induction ends generalizing allowed with
  | finished outside => omega
  | @last state last line ending here ends =>
    obtain rfl : allowed = 0 := by omega
    exact ⟨state, advance_zero here, .last here ends⟩
  | @next state next last line lines ending here continues rest ih =>
    cases allowed with
    | zero => exact ⟨state, advance_zero here, .next here continues rest⟩
    | succ allowed =>
      obtain ⟨between, reached, ends⟩ := ih (by omega : allowed < lines)
      exact ⟨between, by rw [advance_of_next here continues, reached], by rwa [Nat.add_sub_add_right]⟩

/-- A run that is over within its allowance ends after the lines that it has executed. -/
theorem ends_of_advance (ended : state.advance script settings ctx allowed = (last, some ending)) :
    Ends script settings ctx (state.visits script settings ctx allowed).length state last ending ∧
      (state.visits script settings ctx allowed).length ≤ allowed := by
  induction allowed, state using advance_induction σ script settings ctx with
  | finished allowed state outside =>
    rw [advance_finished outside] at ended
    cases ended
    rw [visits_finished outside]
    exact ⟨.finished outside, Nat.zero_le _⟩
  | stopped state line here =>
    rw [advance_zero here] at ended
    cases ended
  | last allowed state line final verdict here ends =>
    rw [advance_of_last here ends] at ended
    cases ended
    rw [visits_succ here, ends]
    exact ⟨.last here ends, Nat.le_add_left 1 allowed⟩
  | next allowed state line next here continues ih =>
    rw [advance_of_next here continues] at ended
    rw [visits_succ here, continues]
    obtain ⟨ends, bound⟩ := ih ended
    exact ⟨.next here continues ends, Nat.succ_le_succ bound⟩

/-- A run ends in one way only. -/
theorem Ends.unique {lines' : Nat} {last' : Playback σ} {ending' : Ending}
    (ends : Ends script settings ctx lines state last ending)
    (other : Ends script settings ctx lines' state last' ending') :
    lines' = lines ∧ last' = last ∧ ending' = ending := by
  -- An allowance that covers both reaches one playback and one ending; the lines are the fewest that do.
  have long := ends.advance (Nat.le_max_left lines lines')
  have same := long.symm.trans (other.advance (Nat.le_max_right lines lines'))
  have length : ∀ {a b : Nat} {x y : Playback σ} {e f : Ending}, Ends script settings ctx a state x e →
      Ends script settings ctx b state y f → ¬ a < b := by
    intro a b x y e f first second shorter
    obtain ⟨between, reached, _⟩ := second.split shorter
    rw [first.advance (Nat.le_refl a)] at reached
    cases reached
  cases same
  exact ⟨Nat.le_antisymm (Nat.le_of_not_lt (length ends other)) (Nat.le_of_not_lt (length other ends)), rfl, rfl⟩

/-- Where each line of a run has a counterpart that keeps two playbacks related, the run has a counterpart of as many
    lines with the same ending. -/
theorem Ends.simulate {script' : Script} {settings' : PlaySettings} {ctx' : Context}
    {R : Playback σ → Playback σ → Prop}
    (outside : ∀ {state other : Playback σ}, R state other → script.line? state.cursor.position = none →
      script'.line? other.cursor.position = none)
    (step : ∀ {state other next : Playback σ} {line : Line} {verdict : Option Ending}, R state other →
      script.line? state.cursor.position = some line → state.step script settings ctx line = (next, verdict) →
      ∃ line' next', script'.line? other.cursor.position = some line' ∧
        other.step script' settings' ctx' line' = (next', verdict) ∧ R next next')
    (ends : Ends script settings ctx lines state last ending) {other : Playback σ} (related : R state other) :
    ∃ last', Ends script' settings' ctx' lines other last' ending ∧ R last last' := by
  induction ends generalizing other with
  | finished ended => exact ⟨other, .finished (outside related ended), related⟩
  | last here ends =>
    obtain ⟨line', last', here', ends', related'⟩ := step related here ends
    exact ⟨last', .last here' ends', related'⟩
  | next here continues rest ih =>
    obtain ⟨line', next', here', continues', related'⟩ := step related here continues
    obtain ⟨last', rest', related''⟩ := ih related'
    exact ⟨last', .next here' continues' rest', related''⟩

/-- The same for as many lines of a run as are allowed. -/
theorem advance_simulate {script' : Script} {settings' : PlaySettings} {ctx' : Context}
    {R : Playback σ → Playback σ → Prop}
    (outside : ∀ {state other : Playback σ}, R state other → script.line? state.cursor.position = none →
      script'.line? other.cursor.position = none)
    (step : ∀ {state other next : Playback σ} {line : Line} {verdict : Option Ending}, R state other →
      script.line? state.cursor.position = some line → state.step script settings ctx line = (next, verdict) →
      ∃ line' next', script'.line? other.cursor.position = some line' ∧
        other.step script' settings' ctx' line' = (next', verdict) ∧ R next next')
    {other : Playback σ} (related : R state other) :
    R (state.advance script settings ctx allowed).1 (other.advance script' settings' ctx' allowed).1 ∧
      (state.advance script settings ctx allowed).2 = (other.advance script' settings' ctx' allowed).2 := by
  induction allowed, state using advance_induction σ script settings ctx generalizing other with
  | finished allowed state ended =>
    rw [advance_finished ended, advance_finished (outside related ended)]
    exact ⟨related, rfl⟩
  | stopped state line here =>
    obtain ⟨line', _, here', _, _⟩ := step related here rfl
    rw [advance_zero here, advance_zero here']
    exact ⟨related, rfl⟩
  | last allowed state line final verdict here ends =>
    obtain ⟨line', final', here', ends', related'⟩ := step related here ends
    rw [advance_of_last here ends, advance_of_last here' ends']
    exact ⟨related', rfl⟩
  | next allowed state line next here continues ih =>
    obtain ⟨line', next', here', continues', related'⟩ := step related here continues
    rw [advance_of_next here continues, advance_of_next here' continues']
    exact ih related'

/-- Scripts whose lines do the same, one by one, do the same however many lines are executed. -/
theorem advance_of_pairs {other : Script} {P : Line → Line → Prop} (pairs : List.Forall₂ P script.lines other.lines)
    (step : ∀ {line line' : Line}, P line line' → ∀ state : Playback σ,
      state.step other settings ctx line' = state.step script settings ctx line) :
    state.advance other settings ctx allowed = state.advance script settings ctx allowed := by
  induction allowed, state using advance_induction σ script settings ctx with
  | finished allowed state outside =>
    rw [advance_finished outside, advance_finished ((Script.line?_eq_none_iff pairs).mpr outside)]
  | stopped state line here =>
    obtain ⟨line', there, _⟩ := Script.exists_pair pairs here
    rw [advance_zero here, advance_zero there]
  | last allowed state line final verdict here ends =>
    obtain ⟨line', there, pair⟩ := Script.exists_pair pairs here
    rw [advance_of_last here ends, advance_of_last there ((step pair state).trans ends)]
  | next allowed state line next here continues ih =>
    obtain ⟨line', there, pair⟩ := Script.exists_pair pairs here
    rw [advance_of_next here continues, advance_of_next there ((step pair state).trans continues), ih]

/-- What is left of an allowance carries a run on from where the rest of it stopped. -/
theorem advance_add {between : Playback σ} {first : Nat}
    (reached : state.advance script settings ctx first = (between, none)) (second : Nat) :
    state.advance script settings ctx (first + second) = between.advance script settings ctx second := by
  induction first, state using advance_induction σ script settings ctx with
  | finished first state outside =>
    rw [advance_finished outside] at reached
    cases reached
  | stopped state line here =>
    rw [advance_zero here] at reached
    cases reached
    rw [Nat.zero_add]
  | last first state line final verdict here ends =>
    rw [advance_of_last here ends] at reached
    cases reached
  | next first state line next here continues ih =>
    rw [advance_of_next here continues] at reached
    rw [Nat.succ_add, advance_of_next here continues]
    exact ih reached

end

section
variable {script : Script} {settings : PlaySettings} {ctx : Context} {state between : Playback σ} {allowed : Nat}

theorem advance_none_of_le {more : Nat} (on : (state.advance script settings ctx more).2 = none)
    (fewer : allowed ≤ more) : (state.advance script settings ctx allowed).2 = none := by
  cases outcome : state.advance script settings ctx allowed with
  | mk last verdict =>
    cases verdict with
    | none => rfl
    | some ending =>
      obtain ⟨ends, bound⟩ := ends_of_advance outcome
      rw [ends.advance (Nat.le_trans bound fewer)] at on
      cases on

theorem line_of_advance (on : state.advance script settings ctx allowed = (between, none)) :
    ∃ line, script.line? between.cursor.position = some line := by
  cases here : script.line? between.cursor.position with
  | some line => exact ⟨line, rfl⟩
  | none =>
    have later := advance_add on 0
    rw [Nat.add_zero, on, advance_finished here] at later
    cases later

/-- A run that is on after some lines has come there from the last of them. -/
theorem step_of_advance (on : state.advance script settings ctx (allowed + 1) = (between, none)) :
    ∃ before line, state.advance script settings ctx allowed = (before, none) ∧
      script.line? before.cursor.position = some line ∧ before.step script settings ctx line = (between, none) := by
  have reached : state.advance script settings ctx allowed = ((state.advance script settings ctx allowed).1, none) :=
    Prod.ext rfl (advance_none_of_le (congrArg Prod.snd on) (Nat.le_succ allowed))
  obtain ⟨line, here⟩ := line_of_advance reached
  rw [advance_add reached 1] at on
  refine ⟨_, line, reached, here, ?_⟩
  cases outcome : (state.advance script settings ctx allowed).1.step script settings ctx line with
  | mk next verdict =>
    cases verdict with
    | some ending =>
      rw [advance_of_last here outcome] at on
      cases on
    | none =>
      rw [advance_of_next here outcome] at on
      cases there : script.line? next.cursor.position with
      | none =>
        rw [advance_finished there] at on
        cases on
      | some line' =>
        rw [advance_zero there] at on
        cases on
        rfl

/-- A run costs the presenter some of its uses. -/
theorem exists_spent : ∃ spent, (state.advance script settings ctx allowed).1.presenter.allowance =
    state.presenter.allowance.map (· - spent) := by
  induction allowed, state using advance_induction σ script settings ctx with
  | finished allowed state outside => exact ⟨0, by simp [advance_finished outside]⟩
  | stopped state line here => exact ⟨0, by simp [advance_zero here]⟩
  | last allowed state line final verdict here ends =>
    rw [advance_of_last here ends]
    exact ⟨_, by rw [← allowance_step, ends]⟩
  | next allowed state line next here continues ih =>
    obtain ⟨spent, left⟩ := ih
    rw [advance_of_next here continues, left]
    have own := allowance_step script settings ctx state line
    rw [continues] at own
    refine ⟨(line.perform script settings ctx state.cursor.seen state.chance).calls.length + spent, ?_⟩
    rw [own, Option.map_map]
    exact congrFun (congrArg Option.map (funext fun uses => Nat.sub_sub uses _ spent)) _

/-- A presenter that never fails never fails later. -/
theorem allowance_of_advance (unfailing : state.presenter.allowance = none) :
    (state.advance script settings ctx allowed).1.presenter.allowance = none := by
  obtain ⟨spent, left⟩ := @exists_spent σ _ script settings ctx state allowed
  rw [left, unfailing, Option.map_none]

/-- With presenters that have as many uses left, runs from the same cursor come to the same cursor and end in the same
    way, whatever was drawn and heard before. -/
theorem advance_congr {other : Playback σ} (same : state.cursor = other.cursor)
    (level : state.presenter.allowance = other.presenter.allowance) :
    (state.advance script settings ctx allowed).1.cursor = (other.advance script settings ctx allowed).1.cursor ∧
      (state.advance script settings ctx allowed).2 = (other.advance script settings ctx allowed).2 := by
  let Level (state other : Playback σ) : Prop :=
    state.cursor = other.cursor ∧ state.presenter.allowance = other.presenter.allowance
  have together : Level state other := ⟨same, level⟩
  refine And.imp_left (fun same => same.1) (advance_simulate (R := Level) ?_ ?_ together)
  · rintro state other ⟨same, _⟩ outside
    rwa [← same]
  · rintro state other next line verdict ⟨same, level⟩ here step
    obtain ⟨next', step', reached, left⟩ := step_of_level same level step
    exact ⟨line, next', same ▸ here, step', reached, left⟩

end

section
variable {script : Script} {settings : PlaySettings} {ctx : Context} {state last : Playback σ} {lines : Nat}
  {ending : Ending}

/-- A run that ends by itself does not end as one that is cut off, whatever the limit. -/
theorem Ends.ne_cutOff (ends : Ends script settings ctx lines state last ending) (limited : PlaySettings) :
    ending ≠ Script.cutOff limited := by
  induction ends with
  | finished outside => exact Script.ne_cutOff (by simp) (by simp) limited
  | @last state last line ending here ends =>
    rcases ending_of_step script settings ctx state line ends with rfl | rfl | ⟨fault, rfl, faulty⟩
    · exact Script.ne_cutOff (by simp) (by simp) limited
    · exact Script.ne_cutOff (by simp) (by simp) limited
    · refine Script.ne_cutOff (by simp) (fun limit same => ?_) limited
      rw [Ending.fault.inj same] at faulty
      exact move_ne_stepLimit script settings ctx _ _ line limit faulty
  | next here continues rest ih => exact ih

/-- The limit on lines is nothing to the lines themselves. -/
theorem advance_withLimit (script : Script) (settings : PlaySettings) (ctx : Context) (limit allowed : Nat)
    (state : Playback σ) :
    state.advance script { settings with stepLimit := limit } ctx allowed =
      state.advance script settings ctx allowed := by
  induction allowed, state using advance_induction σ script settings ctx with
  | finished allowed state outside => rw [advance_finished outside, advance_finished outside]
  | stopped state line here => rw [advance_zero here, advance_zero here]
  | last allowed state line final verdict here ends =>
    have unlimited : state.step script { settings with stepLimit := limit } ctx line = (final, some verdict) := ends
    rw [advance_of_last here ends, advance_of_last here unlimited]
  | next allowed state line next here continues ih =>
    have unlimited : state.step script { settings with stepLimit := limit } ctx line = (next, none) := continues
    rw [advance_of_next here continues, advance_of_next here unlimited, ih]

theorem Ends.withLimit (ends : Ends script settings ctx lines state last ending) (limit : Nat) :
    Ends script { settings with stepLimit := limit } ctx lines state last ending := by
  induction ends with
  | finished outside => exact .finished outside
  | last here ends => exact .last here ends
  | next here continues rest ih => exact .next here continues ih

end
end Playback

namespace Script

/-- A run of a script from a start that leads somewhere ends after a number of lines. -/
def Ends (script : Script) (settings : PlaySettings) (ctx : Context) (start : Start) (state : Playback σ) (lines : Nat)
    (last : Playback σ) (ending : Ending) : Prop :=
  ∃ position, script.entry ctx state.cursor start = .ok position ∧
    Playback.Ends script settings ctx lines { state with cursor := state.cursor.moveTo position } last ending

variable {script : Script} {settings : PlaySettings} {ctx : Context} {start : Start} {state last : Playback σ}
  {lines : Nat} {ending : Ending}

theorem entry_ne_stepLimit (script : Script) (ctx : Context) (cursor : Cursor) (start : Start) (limit : Nat) :
    script.entry ctx cursor start ≠ .error (.stepLimit limit) := by
  cases start with
  | beginning | resume => simp [entry]
  | label name | suffixed base =>
    simp only [entry]
    split <;> simp

/-- A start leads to the same line in scripts with the same labels. -/
theorem entry_congr {other : Script} (labels : other.labels = script.labels) (ctx : Context) (cursor : Cursor)
    (start : Start) : other.entry ctx cursor start = script.entry ctx cursor start := by
  cases start with
  | beginning | resume => rfl
  | label name | suffixed base => simp only [entry, labels]

theorem run_of_error {fault : Fault} (lost : script.entry ctx state.cursor start = .error fault) :
    script.run settings ctx start state = (state, .fault fault) := by
  rw [run, lost]

/-- Where each line of a run has a counterpart that keeps two playbacks related, and the starts lead to the same line
    with the same allowance, the run from one of two related playbacks has the run from the other as its counterpart. -/
theorem run_simulate {script' : Script} {settings' : PlaySettings} {ctx' : Context} {other : Playback σ}
    {R : Playback σ → Playback σ → Prop}
    (outside : ∀ {state other : Playback σ}, R state other → script.line? state.cursor.position = none →
      script'.line? other.cursor.position = none)
    (step : ∀ {state other next : Playback σ} {line : Line} {verdict : Option Ending}, R state other →
      script.line? state.cursor.position = some line → state.step script settings ctx line = (next, verdict) →
      ∃ line' next', script'.line? other.cursor.position = some line' ∧
        other.step script' settings' ctx' line' = (next', verdict) ∧ R next next')
    (enters : script.entry ctx state.cursor start = script'.entry ctx' other.cursor start)
    (limits : script.allowed settings state.presenter = script'.allowed settings' other.presenter)
    (cuts : cutOff settings = cutOff settings') (related : R state other)
    (moves : ∀ position, R { state with cursor := state.cursor.moveTo position }
      { other with cursor := other.cursor.moveTo position }) :
    R (script.run settings ctx start state).1 (script'.run settings' ctx' start other).1 ∧
      (script.run settings ctx start state).2 = (script'.run settings' ctx' start other).2 := by
  cases entered : script.entry ctx state.cursor start with
  | error fault =>
    rw [run_of_error entered, run_of_error (enters ▸ entered)]
    exact ⟨related, rfl⟩
  | ok position =>
    rw [run_of_entry entered, run_of_entry (enters ▸ entered), ← limits, ← cuts]
    obtain ⟨reached, ended⟩ := Playback.advance_simulate (R := R) outside step (moves position)
    exact ⟨reached, congrArg (·.getD (cutOff settings)) ended⟩

omit [Generator σ] in
theorem fault_ne_cutOff {fault : Fault} (lost : script.entry ctx state.cursor start = .error fault)
    (limited : PlaySettings) : Ending.fault fault ≠ cutOff limited := by
  refine ne_cutOff (by simp) (fun limit same => ?_) limited
  rw [Ending.fault.inj same] at lost
  exact entry_ne_stepLimit script ctx state.cursor start limit lost

/-- A run is cut off if it is on after all the lines that it may execute. -/
theorem run_eq_cutOff_iff {position : Nat} (entered : script.entry ctx state.cursor start = .ok position) :
    (script.run settings ctx start state).2 = cutOff settings ↔
      (Playback.advance script settings ctx (script.allowed settings state.presenter)
        { state with cursor := state.cursor.moveTo position }).2 = none := by
  rw [run_of_entry entered]
  cases outcome : Playback.advance script settings ctx (script.allowed settings state.presenter)
      { state with cursor := state.cursor.moveTo position } with
  | mk last verdict =>
    cases verdict with
    | none => simp
    | some ending => simp [(Playback.ends_of_advance outcome).1.ne_cutOff settings]

/-- A run that may execute all its lines ends as it does without a limit. -/
theorem run_of_ends (ends : script.Ends settings ctx start state lines last ending)
    (enough : lines ≤ script.allowed settings state.presenter) :
    script.run settings ctx start state = (last, ending) := by
  obtain ⟨position, entered, ends⟩ := ends
  rw [run_of_entry entered, ends.advance enough]
  rfl

/-- A run that may not execute all its lines is cut off, with the rest of them before it. -/
theorem run_of_short (ends : script.Ends settings ctx start state lines last ending)
    (short : script.allowed settings state.presenter < lines) :
    ∃ between, script.run settings ctx start state = (between, cutOff settings) ∧
      script.Ends settings ctx .resume between (lines - script.allowed settings state.presenter) last ending := by
  obtain ⟨position, entered, ends⟩ := ends
  obtain ⟨between, reached, rest⟩ := ends.split short
  refine ⟨between, ?_, between.cursor.position, rfl, rest⟩
  rw [run_of_entry entered, reached]
  rfl

/-- A run that is not cut off ends after the lines that it executes. -/
theorem ends_of_run {position : Nat} (entered : script.entry ctx state.cursor start = .ok position)
    (ran : script.run settings ctx start state = (last, ending)) (free : ending ≠ cutOff settings) :
    script.Ends settings ctx start state (script.visits settings ctx start state).length last ending := by
  have executed : script.visits settings ctx start state =
      Playback.visits script settings ctx (script.allowed settings state.presenter)
        { state with cursor := state.cursor.moveTo position } := by rw [visits, entered]
  rw [run_of_entry entered] at ran
  obtain ⟨reached, verdict⟩ := Prod.mk.inj ran
  refine ⟨position, entered, ?_⟩
  rw [executed]
  refine (Playback.ends_of_advance (Prod.ext reached ?_)).1
  cases outcome : (Playback.advance script settings ctx (script.allowed settings state.presenter)
      { state with cursor := state.cursor.moveTo position }).2 with
  | none =>
    rw [outcome] at verdict
    exact absurd verdict.symm free
  | some final =>
    rw [outcome] at verdict
    exact congrArg some verdict

theorem Ends.ne_cutOff (ends : script.Ends settings ctx start state lines last ending) (limited : PlaySettings) :
    ending ≠ cutOff limited := by
  obtain ⟨position, entered, ends⟩ := ends
  exact ends.ne_cutOff limited

theorem Ends.withLimit (ends : script.Ends settings ctx start state lines last ending) (limit : Nat) :
    script.Ends { settings with stepLimit := limit } ctx start state lines last ending := by
  obtain ⟨position, entered, ends⟩ := ends
  exact ⟨position, entered, ends.withLimit limit⟩

end Script
end Narrative
