import Narrative.Play.Through
import Narrative.Proofs.Play.Patience

/-!
Playing on past halts. A script that is played on from each halt runs a number of times, and each run but the first
goes on where the one before it halted (`afterHalts`). It comes to an end with the first run that does not halt
(`PlaysOn`). What is played depends on the presenter in nothing but what it has heard before (`run_hearing`), so
that `playRuns`, which has a new presenter for each run, plays the calls of one presenter for all runs
(`playRuns_of_playsOn`).
-/
namespace Narrative

variable {σ : Type} [Generator σ]

/-- The call that a moment is. -/
def Moment.call? : Moment → Option Call
  | call c => some c
  | halted _ => none

theorem Moment.calls_map (calls : List Call) : (calls.map Moment.call).filterMap Moment.call? = calls := by
  rw [List.filterMap_map]
  exact List.filterMap_some

namespace Playback

/-- The playback with a presenter that has heard certain calls before. -/
def hearing (heard : Array Call) (state : Playback σ) : Playback σ :=
  { state with presenter := { state.presenter with calls := heard ++ state.presenter.calls } }

omit [Generator σ] in
theorem hearing_fresh (heard : Array Call) (cursor : Cursor) (chance : σ) :
    hearing heard ⟨cursor, chance, {}⟩ = ⟨cursor, chance, { calls := heard }⟩ := by
  simp [hearing]

variable (script : Script) (settings : PlaySettings) (ctx : Context) {state : Playback σ} (heard : Array Call)

theorem step_hearing (unfailing : state.presenter.allowance = none) (line : Line) :
    (state.hearing heard).step script settings ctx line =
      ((state.step script settings ctx line).1.hearing heard, (state.step script settings ctx line).2) := by
  have unfailing' : (state.hearing heard).presenter.allowance = none := unfailing
  rw [step_of_unfailing _ _ _ _ _ unfailing, step_of_unfailing _ _ _ _ _ unfailing']
  simp only [hearing, Array.append_assoc]

theorem advance_hearing (unfailing : state.presenter.allowance = none) (allowed : Nat) :
    (state.hearing heard).advance script settings ctx allowed =
      ((state.advance script settings ctx allowed).1.hearing heard,
        (state.advance script settings ctx allowed).2) := by
  induction allowed, state using advance_induction σ script settings ctx with
  | finished allowed state outside =>
    have there : script.line? (state.hearing heard).cursor.position = none := outside
    rw [advance_finished outside, advance_finished there]
  | stopped state line here =>
    have there : script.line? (state.hearing heard).cursor.position = some line := here
    rw [advance_zero here, advance_zero there]
  | last allowed state line last ending here ends =>
    have there : script.line? (state.hearing heard).cursor.position = some line := here
    have heardStep := step_hearing script settings ctx heard unfailing line
    rw [ends] at heardStep
    rw [advance_of_last here ends, advance_of_last there heardStep]
  | next allowed state line next here continues ih =>
    have there : script.line? (state.hearing heard).cursor.position = some line := here
    have heardStep := step_hearing script settings ctx heard unfailing line
    rw [continues] at heardStep
    rw [advance_of_next here continues, advance_of_next there heardStep, ih (allowance_of_step unfailing continues)]

end Playback

namespace Script

section
variable {script : Script} {settings : PlaySettings} {ctx : Context} {start : Start} {state : Playback σ}

theorem run_hearing (heard : Array Call) (unfailing : state.presenter.allowance = none) :
    script.run settings ctx start (state.hearing heard) =
      ((script.run settings ctx start state).1.hearing heard, (script.run settings ctx start state).2) := by
  cases entered : script.entry ctx state.cursor start with
  | error fault =>
    have lost : script.entry ctx (state.hearing heard).cursor start = .error fault := entered
    rw [run_of_error entered, run_of_error lost]
  | ok position =>
    have entered' : script.entry ctx (state.hearing heard).cursor start = .ok position := entered
    have unfailing' : ({ state with cursor := state.cursor.moveTo position } : Playback σ).presenter.allowance = none :=
      unfailing
    have same := Playback.advance_hearing script settings ctx heard unfailing' (script.allowed settings state.presenter)
    have allowance : script.allowed settings (state.hearing heard).presenter =
        script.allowed settings state.presenter := rfl
    have moved : ({ state.hearing heard with cursor := (state.hearing heard).cursor.moveTo position } : Playback σ) =
        Playback.hearing heard { state with cursor := state.cursor.moveTo position } := rfl
    rw [run_of_entry entered, run_of_entry entered', allowance, moved, same]

theorem allowance_of_run (unfailing : state.presenter.allowance = none) :
    (script.run settings ctx start state).1.presenter.allowance = none := by
  cases entered : script.entry ctx state.cursor start with
  | error fault => rwa [run_of_error entered]
  | ok position =>
    rw [run_of_entry entered]
    have unfailing' : ({ state with cursor := state.cursor.moveTo position } : Playback σ).presenter.allowance = none :=
      unfailing
    exact Playback.allowance_of_advance unfailing'

/-- Runs from the same start at the same cursor come to the same cursor and end in the same way. -/
theorem run_congr {other : Playback σ} (same : state.cursor = other.cursor)
    (unfailing : state.presenter.allowance = none) (unfailing' : other.presenter.allowance = none) :
    (script.run settings ctx start state).1.cursor = (script.run settings ctx start other).1.cursor ∧
      (script.run settings ctx start state).2 = (script.run settings ctx start other).2 := by
  cases entered : script.entry ctx state.cursor start with
  | error fault =>
    rw [run_of_error entered, run_of_error (same ▸ entered)]
    exact ⟨same, rfl⟩
  | ok position =>
    have allowance : script.allowed settings state.presenter = script.allowed settings other.presenter := by
      rw [allowed, allowed, unfailing, unfailing']
    have moved : (⟨state.cursor.moveTo position, state.chance, state.presenter⟩ : Playback σ).cursor =
        (⟨other.cursor.moveTo position, other.chance, other.presenter⟩ : Playback σ).cursor := by rw [same]
    obtain ⟨reached, ended⟩ := @Playback.advance_congr σ _ script settings ctx _
      (script.allowed settings other.presenter) _ moved (unfailing.trans unfailing'.symm)
    rw [run_of_entry entered, run_of_entry (same ▸ entered), allowance]
    exact ⟨reached, congrArg (·.getD (cutOff settings)) ended⟩

end

/-- The start and the playback of the run after a number of halts. Each run but the first goes on where the one
    before it halted. -/
def afterHalts (script : Script) (settings : PlaySettings) (ctx : Context) :
    (halts : Nat) → Start → Playback σ → Option (Start × Playback σ)
  | 0, start, state => some (start, state)
  | halts + 1, start, state =>
    match script.run settings ctx start state with
    | (next, .broke) => afterHalts script settings ctx halts .resume next
    | _ => none

/-- Played on past every halt, of which there are a number, the script comes to an end. -/
def PlaysOn (script : Script) (settings : PlaySettings) (ctx : Context) (start : Start) (state : Playback σ)
    (halts : Nat) (last : Playback σ) (ending : Ending) : Prop :=
  ∃ start' between, script.afterHalts settings ctx halts start state = some (start', between) ∧
    script.run settings ctx start' between = (last, ending) ∧ ending ≠ .broke ∧ ending ≠ .endless

section
variable {script : Script} {settings : PlaySettings} {ctx : Context} {start : Start} {state next last : Playback σ}
  {halts : Nat} {ending : Ending}

theorem afterHalts_of_broke (ran : script.run settings ctx start state = (next, .broke)) :
    script.afterHalts settings ctx (halts + 1) start state = script.afterHalts settings ctx halts .resume next := by
  rw [afterHalts, ran]

theorem afterHalts_of_other (ran : (script.run settings ctx start state).2 ≠ .broke) :
    script.afterHalts settings ctx (halts + 1) start state = none := by
  rw [afterHalts]
  split
  · rename_i next broke
    exact absurd (congrArg Prod.snd broke) ran
  · rfl

theorem afterHalts_add (first second : Nat) (start : Start) (state : Playback σ) :
    script.afterHalts settings ctx (first + second) start state =
      (script.afterHalts settings ctx first start state).bind fun place =>
        script.afterHalts settings ctx second place.1 place.2 := by
  induction first generalizing start state with
  | zero => rw [Nat.zero_add, afterHalts, Option.bind_some]
  | succ first ih =>
    rw [Nat.succ_add]
    by_cases halted : (script.run settings ctx start state).2 = .broke
    · have ran := Prod.snd_eq_iff.mp halted
      rw [afterHalts_of_broke ran, afterHalts_of_broke ran, ih]
    · rw [afterHalts_of_other halted, afterHalts_of_other halted, Option.bind_none]

/-- The first run decides: it is the last one, or the others go on where it halts. -/
theorem playsOn_zero_iff :
    script.PlaysOn settings ctx start state 0 last ending ↔
      script.run settings ctx start state = (last, ending) ∧ ending ≠ .broke ∧ ending ≠ .endless := by
  constructor
  · rintro ⟨_, _, ⟨⟩, ran⟩
    exact ran
  · intro ran
    exact ⟨start, state, rfl, ran⟩

theorem playsOn_succ_iff :
    script.PlaysOn settings ctx start state (halts + 1) last ending ↔
      ∃ next, script.run settings ctx start state = (next, .broke) ∧
        script.PlaysOn settings ctx .resume next halts last ending := by
  constructor
  · rintro ⟨start', between, reached, ran⟩
    by_cases halted : (script.run settings ctx start state).2 = .broke
    · refine ⟨_, Prod.snd_eq_iff.mp halted, start', between, ?_, ran⟩
      rwa [afterHalts_of_broke (Prod.snd_eq_iff.mp halted)] at reached
    · rw [afterHalts_of_other halted] at reached
      cases reached
  · rintro ⟨next, halted, start', between, reached, ran⟩
    exact ⟨start', between, by rwa [afterHalts_of_broke halted], ran⟩

end

section
variable {script : Script} {settings : PlaySettings} {ctx : Context} {start : Start} {state next last : Playback σ}
  {line : Line} {halts lines position : Nat} {ending : Ending}

theorem playsOn_iff_resume (entered : script.entry ctx state.cursor start = .ok position) :
    script.PlaysOn settings ctx start state halts last ending ↔
      script.PlaysOn settings ctx .resume { state with cursor := state.cursor.moveTo position } halts last ending := by
  cases halts with
  | zero => rw [playsOn_zero_iff, playsOn_zero_iff, run_eq_resume entered]
  | succ halts => simp only [playsOn_succ_iff, run_eq_resume entered]

theorem playsOn_of_ends (unlimited : settings.stepLimit = 0) (unfailing : state.presenter.allowance = none)
    (ends : Playback.Ends script settings ctx lines state last ending) (stops : ending ≠ .broke) :
    script.PlaysOn settings ctx .resume state 0 last ending := by
  obtain ⟨ran, closes⟩ := (run_resume_iff unlimited unfailing).mpr ⟨lines, ends⟩
  exact playsOn_zero_iff.mpr ⟨ran, stops, closes⟩

theorem playsOn_of_halt (unlimited : settings.stepLimit = 0) (unfailing : state.presenter.allowance = none)
    (ends : Playback.Ends script settings ctx lines state next .broke)
    (plays : script.PlaysOn settings ctx .resume next halts last ending) :
    script.PlaysOn settings ctx .resume state (halts + 1) last ending := by
  obtain ⟨ran, _⟩ := (run_resume_iff unlimited unfailing).mpr ⟨lines, ends⟩
  exact playsOn_succ_iff.mpr ⟨next, ran, plays⟩

/-- A line that does not end the run is part of what is played on. -/
theorem playsOn_of_next (unlimited : settings.stepLimit = 0) (unfailing : state.presenter.allowance = none)
    (here : script.line? state.cursor.position = some line)
    (continues : state.step script settings ctx line = (next, none))
    (plays : script.PlaysOn settings ctx .resume next halts last ending) :
    script.PlaysOn settings ctx .resume state halts last ending := by
  have unfailing' := Playback.allowance_of_step unfailing continues
  cases halts with
  | zero =>
    obtain ⟨ran, stops, closes⟩ := playsOn_zero_iff.mp plays
    obtain ⟨lines, ends⟩ := (run_resume_iff unlimited unfailing').mp ⟨ran, closes⟩
    exact playsOn_of_ends unlimited unfailing (.next here continues ends) stops
  | succ halts =>
    obtain ⟨between, ran, rest⟩ := playsOn_succ_iff.mp plays
    obtain ⟨lines, ends⟩ := (run_resume_iff unlimited unfailing').mp ⟨ran, by simp⟩
    exact playsOn_of_halt unlimited unfailing (.next here continues ends) rest

end

section
variable {script : Script} {settings : PlaySettings} {ctx : Context} {start : Start} {cursor : Cursor}
  {chance : σ} {runs : Nat} {next : Playback σ} {ending : Ending}

theorem playRuns_of_broke (ran : script.run settings ctx start ⟨cursor, chance, {}⟩ = (next, .broke)) :
    script.playRuns settings ctx (runs + 1) start cursor chance =
      (next.presenter.calls.toList.map Moment.call ++
        .halted (next.cursor.position + 1) :: (script.playRuns settings ctx runs .resume next.cursor next.chance).1,
        (script.playRuns settings ctx runs .resume next.cursor next.chance).2) := by
  rw [playRuns, ran]

theorem playRuns_of_other (ran : script.run settings ctx start ⟨cursor, chance, {}⟩ = (next, ending))
    (stops : ending ≠ .broke) :
    script.playRuns settings ctx (runs + 1) start cursor chance =
      (next.presenter.calls.toList.map Moment.call, ending) := by
  rw [playRuns, ran]
  cases ending with
  | broke => exact absurd rfl stops
  | _ => rfl

/-- A run of a presenter that has heard calls is the run of a new one, with those calls in front. -/
theorem run_of_fresh {verdict : Ending} (heard : Array Call)
    (ran : script.run settings ctx start ⟨cursor, chance, {}⟩ = (next, verdict)) :
    script.run settings ctx start ⟨cursor, chance, { calls := heard }⟩ =
      (⟨next.cursor, next.chance, { calls := heard ++ next.presenter.calls }⟩, verdict) := by
  have unfailing : next.presenter.allowance = none := by
    have kept : (script.run settings ctx start ⟨cursor, chance, {}⟩).1.presenter.allowance = none :=
      allowance_of_run rfl
    rwa [ran] at kept
  rw [← Playback.hearing_fresh, run_hearing heard rfl, ran]
  simp only [Playback.hearing, unfailing]

/-- Enough runs show the calls of playing on past every halt, and end as it does. -/
theorem playRuns_of_playsOn {heard : Array Call} {halts : Nat} {last : Playback σ}
    (plays : script.PlaysOn settings ctx start ⟨cursor, chance, { calls := heard }⟩ halts last ending)
    (enough : halts < runs) :
    ∃ played, script.playRuns settings ctx runs start cursor chance = (played, ending) ∧
      last.presenter.calls.toList = heard.toList ++ played.filterMap Moment.call? := by
  obtain ⟨runs, rfl⟩ : ∃ more, runs = more + 1 := ⟨runs - 1, by omega⟩
  induction halts generalizing start cursor chance heard runs with
  | zero =>
    obtain ⟨ran, stops, _⟩ := playsOn_zero_iff.mp plays
    cases fresh : script.run settings ctx start ⟨cursor, chance, {}⟩ with
    | mk next verdict =>
      rw [run_of_fresh heard fresh] at ran
      cases ran
      refine ⟨_, playRuns_of_other fresh stops, ?_⟩
      rw [Moment.calls_map]
      exact Array.toList_append
  | succ halts ih =>
    obtain ⟨between, ran, rest⟩ := playsOn_succ_iff.mp plays
    cases fresh : script.run settings ctx start ⟨cursor, chance, {}⟩ with
    | mk next verdict =>
      rw [run_of_fresh heard fresh] at ran
      cases ran
      obtain ⟨runs, rfl⟩ : ∃ more, runs = more + 1 := ⟨runs - 1, by omega⟩
      obtain ⟨played, later, calls⟩ := ih rest runs (by omega)
      rw [playRuns_of_broke fresh, later]
      refine ⟨_, rfl, ?_⟩
      rw [calls, Array.toList_append, List.filterMap_append, Moment.calls_map, List.filterMap_cons_none rfl,
        List.append_assoc]

/-- Runs that come to an end play the script on past every halt. -/
theorem playsOn_of_playRuns (heard : Array Call)
    (ends : (script.playRuns settings ctx runs start cursor chance).2 ≠ .endless) :
    ∃ halts last, halts < runs ∧ script.PlaysOn settings ctx start ⟨cursor, chance, { calls := heard }⟩ halts last
      (script.playRuns settings ctx runs start cursor chance).2 := by
  induction runs generalizing start cursor chance heard with
  | zero => exact absurd rfl ends
  | succ runs ih =>
    cases fresh : script.run settings ctx start ⟨cursor, chance, {}⟩ with
    | mk next verdict =>
      by_cases halted : verdict = .broke
      · subst halted
        rw [playRuns_of_broke fresh] at ends ⊢
        obtain ⟨halts, last, fewer, rest⟩ := ih (heard ++ next.presenter.calls) ends
        exact ⟨halts + 1, last, Nat.succ_lt_succ fewer, playsOn_succ_iff.mpr ⟨_, run_of_fresh heard fresh, rest⟩⟩
      · rw [playRuns_of_other fresh halted] at ends ⊢
        exact ⟨0, _, Nat.succ_pos runs, playsOn_zero_iff.mpr ⟨run_of_fresh heard fresh, halted, ends⟩⟩

end
end Script
end Narrative
