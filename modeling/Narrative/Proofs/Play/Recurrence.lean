import Mathlib.Data.Finset.Card
import Mathlib.Data.Finset.Prod
import Narrative.Proofs.Play.Onward
import Narrative.Shell.Program

/-!
Scripts that halt for ever. A run under a limit on lines ends, but the lines of the next run are counted anew, so a
script that is played on from each halt may still never come to an end. It does not exactly if it comes back: two of
its halts leave the cursor on the same line with the same arrivals (`HaltsAgain`). There are only so many cursors
after a halt, since a halt leaves the cursor behind a line that halts (`position_of_broke`) and arrivals only grow,
so a script that does not come back halts a bounded number of times.
-/
namespace Narrative

variable {σ : Type} [Generator σ]

namespace Script

section
variable {script : Script} {settings : PlaySettings} {ctx : Context} {start start' : Start} {state between : Playback σ}

theorem grows_of_run : Grows script ctx state.cursor.seen (script.run settings ctx start state).1.cursor.seen := by
  cases entered : script.entry ctx state.cursor start with
  | error fault =>
    rw [run_of_error entered]
    exact .refl script ctx _
  | ok position =>
    rw [run_of_entry entered]
    exact Playback.grows_of_advance script settings ctx _ { state with cursor := state.cursor.moveTo position }

/-- A run that halts leaves the cursor on the line after one that halts. -/
theorem position_of_broke {next : Playback σ} (halted : script.run settings ctx start state = (next, .broke)) :
    ∃ place line, script.line? place = some line ∧ line.isHalt = true ∧ next.cursor.position = place + 1 := by
  cases entered : script.entry ctx state.cursor start with
  | error fault =>
    rw [run_of_error entered] at halted
    cases halted
  | ok position =>
    rw [run_of_entry entered] at halted
    obtain ⟨reached, ended⟩ := Prod.mk.inj halted
    cases outcome : Playback.advance script settings ctx (script.allowed settings state.presenter)
        { state with cursor := state.cursor.moveTo position } with
    | mk last verdict =>
      rw [outcome] at reached ended
      cases verdict with
      | none => exact absurd ended.symm (ne_cutOff (by simp) (by simp) settings)
      | some ending =>
        cases reached
        cases ended
        rcases Playback.visit_of_advance outcome with impossible | ⟨visit, final, breaks⟩
        · cases impossible
        · have here := Playback.line?_of_visit (List.mem_of_getLast? final)
          obtain ⟨halts, after⟩ := Playback.isHalt_of_step _ _ _ _ _ breaks
          exact ⟨_, _, here, halts, after⟩

/-- A limit on lines leaves no run without an end. -/
theorem run_ne_endless (limited : settings.stepLimit ≠ 0) : (script.run settings ctx start state).2 ≠ .endless := by
  have cut : cutOff settings = .fault (.stepLimit settings.stepLimit) := cutOff_of_pos (Nat.pos_of_ne_zero limited)
  have unlimited : cutOff { settings with stepLimit := 0 } = .endless := cutOff_of_unlimited rfl
  intro endless
  cases entered : script.entry ctx state.cursor start with
  | error fault =>
    rw [run_of_error entered] at endless
    cases endless
  | ok position =>
    have free : Ending.endless ≠ cutOff settings := by simp [cut]
    have ends := ends_of_run entered (Prod.snd_eq_iff.mp endless) free
    exact ends.ne_cutOff { settings with stepLimit := 0 } unlimited.symm

theorem afterHalts_of_le {fewer halts : Nat} (on : (script.afterHalts settings ctx halts start state).isSome = true)
    (less : fewer ≤ halts) : (script.afterHalts settings ctx fewer start state).isSome = true := by
  obtain ⟨more, rfl⟩ := Nat.exists_eq_add_of_le less
  rw [afterHalts_add] at on
  exact Option.isSome_of_isSome_bind on

/-- What every run keeps is kept past the halts. -/
theorem afterHalts_invariant {motive : Playback σ → Prop} {halts : Nat}
    (kept : ∀ start state, motive state → motive (script.run settings ctx start state).1) (holds : motive state)
    (reached : script.afterHalts settings ctx halts start state = some (start', between)) : motive between := by
  induction halts generalizing start state with
  | zero =>
    cases reached
    exact holds
  | succ halts ih =>
    by_cases halted : (script.run settings ctx start state).2 = .broke
    · rw [afterHalts_of_broke (Prod.snd_eq_iff.mp halted)] at reached
      exact ih (kept start state holds) reached
    · rw [afterHalts_of_other halted] at reached
      cases reached

theorem allowance_of_afterHalts {halts : Nat} (unfailing : state.presenter.allowance = none)
    (reached : script.afterHalts settings ctx halts start state = some (start', between)) :
    between.presenter.allowance = none :=
  afterHalts_invariant (motive := fun state => state.presenter.allowance = none)
    (fun _ _ unfailing => allowance_of_run unfailing) unfailing reached

theorem grows_of_afterHalts {halts : Nat}
    (reached : script.afterHalts settings ctx halts start state = some (start', between)) :
    Grows script ctx state.cursor.seen between.cursor.seen :=
  afterHalts_invariant (motive := fun later => Grows script ctx state.cursor.seen later.cursor.seen)
    (fun _ _ grows => grows.trans grows_of_run) (.refl script ctx state.cursor.seen) reached

/-- After a halt the next run resumes, behind a line that halts. -/
theorem position_of_afterHalts {halts : Nat}
    (reached : script.afterHalts settings ctx (halts + 1) start state = some (start', between)) :
    start' = .resume ∧ ∃ place line, script.line? place = some line ∧ line.isHalt = true ∧
      between.cursor.position = place + 1 := by
  rw [afterHalts_add] at reached
  obtain ⟨⟨last, state'⟩, _, ran⟩ := Option.bind_eq_some_iff.mp reached
  by_cases halted : (script.run settings ctx last state').2 = .broke
  · rw [afterHalts_of_broke (Prod.snd_eq_iff.mp halted), afterHalts] at ran
    cases ran
    exact ⟨rfl, position_of_broke (Prod.snd_eq_iff.mp halted)⟩
  · rw [afterHalts_of_other halted] at ran
    cases ran

/-- As many halts follow a cursor, whatever was drawn and heard before. -/
theorem afterHalts_congr {other : Playback σ} (same : state.cursor = other.cursor)
    (unfailing : state.presenter.allowance = none) (unfailing' : other.presenter.allowance = none) (halts : Nat) :
    (script.afterHalts settings ctx halts start state).isSome =
      (script.afterHalts settings ctx halts start other).isSome := by
  induction halts generalizing start state other with
  | zero => rfl
  | succ halts ih =>
    obtain ⟨reached, ended⟩ := @run_congr σ _ script settings ctx start _ _ same unfailing unfailing'
    by_cases halted : (script.run settings ctx start state).2 = .broke
    · have halted' : (script.run settings ctx start other).2 = .broke := ended ▸ halted
      rw [afterHalts_of_broke (Prod.snd_eq_iff.mp halted), afterHalts_of_broke (Prod.snd_eq_iff.mp halted')]
      exact ih reached (allowance_of_run unfailing) (allowance_of_run unfailing')
    · have other : (script.run settings ctx start other).2 ≠ .broke := ended ▸ halted
      rw [afterHalts_of_other halted, afterHalts_of_other other]

end

/-- Two halts leave the cursor on the same line with the same arrivals. -/
def HaltsAgain (script : Script) (settings : PlaySettings) (ctx : Context) (start : Start) (state : Playback σ) :
    Prop :=
  ∃ early late first second, 0 < early ∧ early < late ∧
    script.afterHalts settings ctx early start state = some (.resume, first) ∧
    script.afterHalts settings ctx late start state = some (.resume, second) ∧ first.cursor = second.cursor

/-- The lines after those that halt. -/
def haltPlaces (script : Script) : Finset Nat := ((script.lines.findIdxs Line.isHalt).map (· + 1)).toFinset

theorem card_haltPlaces_le (script : Script) : script.haltPlaces.card ≤ script.lines.countP Line.isHalt := by
  refine (List.toFinset_card_le _).trans ?_
  rw [List.length_map, List.length_findIdxs]

theorem mem_haltPlaces {script : Script} {place : Nat} {line : Line} (here : script.line? place = some line)
    (halts : line.isHalt = true) : place + 1 ∈ script.haltPlaces := by
  obtain ⟨inside, found⟩ := List.getElem?_eq_some_iff.mp here
  refine List.mem_toFinset.mpr (List.mem_map.mpr ⟨place, ?_, rfl⟩)
  rw [List.mem_findIdxs_iff_exists_getElem_pos]
  exact ⟨inside, by rwa [found]⟩

section
variable {script : Script} {settings : PlaySettings} {ctx : Context} {start start' : Start}
  {state between last : Playback σ} {halts : Nat} {ending : Ending}

/-- A script that comes back to a cursor after a halt halts any number of times. -/
theorem isSome_of_haltsAgain (unfailing : state.presenter.allowance = none)
    (again : script.HaltsAgain settings ctx start state) (halts : Nat) :
    (script.afterHalts settings ctx halts start state).isSome = true := by
  obtain ⟨early, late, first, second, _, sooner, reached, returned, same⟩ := again
  induction halts using Nat.strongRecOn with
  | ind halts ih =>
    by_cases within : halts ≤ late
    · exact afterHalts_of_le (by rw [returned]; rfl) within
    · -- What follows the second of the two halts is what followed the first one.
      obtain ⟨rest, rfl⟩ := Nat.exists_eq_add_of_le (Nat.le_of_not_le within)
      have shorter := ih (early + rest) (by omega)
      rw [afterHalts_add, reached, Option.bind_some] at shorter
      rw [afterHalts_add, returned, Option.bind_some]
      rwa [afterHalts_congr same (allowance_of_afterHalts unfailing reached)
        (allowance_of_afterHalts unfailing returned)] at shorter

/-- After a halt there are as many phases as a line that halts and a number of arrivals can make. -/
theorem phase_of_afterHalts
    (reached : script.afterHalts settings ctx (halts + 1) start state = some (start', between)) :
    between.cursor.phase state.cursor.seen ∈ script.haltPlaces ×ˢ Finset.range (script.lines.countP remembers + 1) := by
  obtain ⟨_, place, line, here, own, after⟩ := position_of_afterHalts reached
  have grown := (grows_of_afterHalts reached).length_le
  refine Finset.mem_product.mpr ⟨?_, Finset.mem_range.mpr ?_⟩
  · show between.cursor.position ∈ script.haltPlaces
    rw [after]
    exact mem_haltPlaces here own
  · show between.cursor.seen.length - state.cursor.seen.length < _
    omega

/-- A script that halts more often than there are such phases comes back to a cursor. -/
theorem haltsAgain_of_long
    (long : (script.afterHalts settings ctx (script.lines.countP Line.isHalt * (script.lines.countP remembers + 1) + 1)
      start state).isSome = true) : script.HaltsAgain settings ctx start state := by
  have there : ∀ t ∈ Finset.range (script.lines.countP Line.isHalt * (script.lines.countP remembers + 1) + 1),
      ∃ between, script.afterHalts settings ctx (t + 1) start state = some (.resume, between) := by
    intro t member
    have on := afterHalts_of_le long (Nat.succ_le_of_lt (Finset.mem_range.mp member))
    obtain ⟨⟨start', between⟩, reached⟩ := Option.isSome_iff_exists.mp on
    obtain ⟨rfl, _⟩ := position_of_afterHalts reached
    exact ⟨between, reached⟩
  have : Nonempty (Playback σ) := ⟨state⟩
  choose! between reached using there
  have fewer : (script.haltPlaces ×ˢ Finset.range (script.lines.countP remembers + 1)).card <
      (Finset.range (script.lines.countP Line.isHalt * (script.lines.countP remembers + 1) + 1)).card := by
    rw [Finset.card_product, Finset.card_range, Finset.card_range]
    exact Nat.lt_succ_of_le (Nat.mul_le_mul_right _ script.card_haltPlaces_le)
  obtain ⟨i, iOn, j, jOn, different, same⟩ :=
    Finset.exists_ne_map_eq_of_card_lt_of_maps_to fewer fun t member => phase_of_afterHalts (reached t member)
  wlog sooner : i < j generalizing i j
  · exact this j jOn i iOn different.symm same.symm (lt_of_le_of_ne (not_lt.mp sooner) different.symm)
  refine ⟨i + 1, j + 1, between i, between j, Nat.succ_pos i, Nat.succ_lt_succ sooner, reached i iOn, reached j jOn, ?_⟩
  -- The arrivals after the later halt extend those after the earlier one, so as many are the same.
  refine Cursor.eq_of_phase (grows_of_afterHalts (reached i iOn)) ?_ same
  have rest := reached j jOn
  rw [show j + 1 = i + 1 + (j - i) by omega, afterHalts_add, reached i iOn, Option.bind_some] at rest
  exact grows_of_afterHalts rest

/-- Under a limit on lines, a script that does not halt often enough comes to an end. -/
theorem playsOn_of_none (limited : settings.stepLimit ≠ 0)
    (spent : script.afterHalts settings ctx halts start state = none) :
    ∃ fewer last ending, fewer < halts ∧ script.PlaysOn settings ctx start state fewer last ending := by
  induction halts generalizing start state with
  | zero => cases spent
  | succ halts ih =>
    by_cases halted : (script.run settings ctx start state).2 = .broke
    · rw [afterHalts_of_broke (Prod.snd_eq_iff.mp halted)] at spent
      obtain ⟨fewer, last, ending, less, rest⟩ := ih spent
      exact ⟨fewer + 1, last, ending, Nat.succ_lt_succ less,
        playsOn_succ_iff.mpr ⟨_, Prod.snd_eq_iff.mp halted, rest⟩⟩
    · exact ⟨0, _, _, Nat.succ_pos halts, playsOn_zero_iff.mpr ⟨rfl, halted, run_ne_endless limited⟩⟩

/-- A script that has come to an end does not halt once more. -/
theorem afterHalts_of_playsOn (plays : script.PlaysOn settings ctx start state halts last ending) :
    script.afterHalts settings ctx (halts + 1) start state = none := by
  obtain ⟨start', between, reached, ran, stops, _⟩ := plays
  rw [afterHalts_add, reached, Option.bind_some]
  exact afterHalts_of_other (by rwa [ran])

theorem not_haltsAgain_of_playsOn (unfailing : state.presenter.allowance = none)
    (plays : script.PlaysOn settings ctx start state halts last ending) :
    ¬ script.HaltsAgain settings ctx start state := by
  intro again
  have on := isSome_of_haltsAgain unfailing again (halts + 1)
  rw [afterHalts_of_playsOn plays] at on
  cases on

theorem halts_le_of_playsOn (unfailing : state.presenter.allowance = none)
    (plays : script.PlaysOn settings ctx start state halts last ending) :
    halts ≤ script.lines.countP Line.isHalt * (script.lines.countP remembers + 1) := by
  refine Nat.le_of_not_lt fun more => ?_
  obtain ⟨start', between, reached, _⟩ := id plays
  have on : (script.afterHalts settings ctx halts start state).isSome = true := by
    rw [reached]
    rfl
  exact not_haltsAgain_of_playsOn unfailing plays (haltsAgain_of_long (afterHalts_of_le on more))

/-- There is patience for more runs than a script can halt. -/
theorem halts_le_patience (script : Script) :
    script.lines.countP Line.isHalt * (script.lines.countP remembers + 1) ≤ script.patience :=
  Nat.mul_le_mul_right _ List.countP_le_length

end

/-- A script of two lines that comes back to its first line whenever it is played on: no number of halts brings it to
    an end, though each run executes two lines at most and four are allowed. -/
theorem not_playsOn_of_loop :
    let script := Script.parse "loop" "break /// nothasblade\njumpto 1"
    let settings : PlaySettings := { stepLimit := 4 }
    let state : Playback Tape := ⟨{}, Generator.ofSeed settings.seed, {}⟩
    script.accepted {} = true ∧ settings.stepLimit ≠ 0 ∧ (Program.contextOf {}).toOption = some Context.opening ∧
      ¬ ∃ halts last ending, script.PlaysOn settings Context.opening .beginning state halts last ending := by
  intro script settings state
  let after : Playback Tape := ⟨⟨1, []⟩, Generator.ofSeed settings.seed, {}⟩
  have facts : script.accepted {} = true ∧ settings.stepLimit ≠ 0 ∧
      (Program.contextOf {}).toOption = some Context.opening ∧
      script.afterHalts settings Context.opening 1 .beginning state = some (.resume, after) ∧
      script.afterHalts settings Context.opening 2 .beginning state = some (.resume, after) := by decide +kernel
  obtain ⟨accepted, limited, given, once, twice⟩ := facts
  refine ⟨accepted, limited, given, ?_⟩
  rintro ⟨halts, last, ending, plays⟩
  refine not_haltsAgain_of_playsOn rfl plays ?_
  exact ⟨1, 2, after, after, by omega, by omega, once, twice, rfl⟩

/-- Under a limit on lines and with a presenter that never fails, a script that is played on from each halt comes to
    an end exactly if no two halts leave its cursor on the same line with the same arrivals. It then halts no more
    often than there are halts, times one more than the number of switches that remember, and otherwise it halts any
    number of times. -/
theorem playsOn_iff_not_haltsAgain (σ : Type) [Generator σ] (script : Script) {settings : PlaySettings} (ctx : Context)
    (start : Start) (limited : settings.stepLimit ≠ 0) :
    let state : Playback σ := ⟨{}, Generator.ofSeed settings.seed, {}⟩
    ((∃ halts last ending, script.PlaysOn settings ctx start state halts last ending) ↔
        ¬ script.HaltsAgain settings ctx start state) ∧
      (∀ halts last ending, script.PlaysOn settings ctx start state halts last ending →
        halts ≤ script.lines.countP Line.isHalt * (script.lines.countP remembers + 1)) ∧
      (script.HaltsAgain settings ctx start state →
        ∀ halts, (script.afterHalts settings ctx halts start state).isSome = true) ∧
      ((script.playThrough σ settings ctx start).2 = .endless ↔ script.HaltsAgain settings ctx start state) := by
  intro state
  have unfailing : state.presenter.allowance = none := rfl
  have decided : (∃ halts last ending, script.PlaysOn settings ctx start state halts last ending) ↔
      ¬ script.HaltsAgain settings ctx start state := by
    constructor
    · rintro ⟨halts, last, ending, plays⟩
      exact not_haltsAgain_of_playsOn unfailing plays
    · intro never
      have spent := Option.not_isSome_iff_eq_none.mp fun on => never (haltsAgain_of_long on)
      obtain ⟨halts, last, ending, _, plays⟩ := playsOn_of_none limited spent
      exact ⟨halts, last, ending, plays⟩
  refine ⟨decided, fun halts last ending plays => halts_le_of_playsOn unfailing plays,
    fun again => isSome_of_haltsAgain unfailing again, ?_⟩
  rw [← not_iff_not, ← decided]
  constructor
  · intro ends
    obtain ⟨halts, last, _, plays⟩ := playsOn_of_playRuns #[] ends
    exact ⟨halts, last, _, plays⟩
  · rintro ⟨halts, last, ending, plays⟩
    have patient := (halts_le_of_playsOn unfailing plays).trans script.halts_le_patience
    obtain ⟨played, ended, _⟩ := playRuns_of_playsOn plays (Nat.lt_succ_of_le patient)
    obtain ⟨_, _, _, _, _, closes⟩ := plays
    rwa [playThrough, ended]

/-- Two halts on the way to the end, one for each pass over a switch that remembers. -/
theorem playsOn_of_switch :
    let script := Script.parse "again"
      "label start\nbreak /// nothasblade\nfirstswitch seen_end\njumpto start\nlabel seen_end"
    let settings : PlaySettings := { stepLimit := 4 }
    let state : Playback Tape := ⟨{}, Generator.ofSeed settings.seed, {}⟩
    settings.stepLimit ≠ 0 ∧ script.lines.countP Line.isHalt * (script.lines.countP remembers + 1) = 2 ∧
      ¬ script.HaltsAgain settings Context.opening .beginning state ∧
      (script.playThrough Tape settings Context.opening .beginning).2 ≠ .endless := by
  intro script settings state
  have facts : settings.stepLimit ≠ 0 ∧
      script.lines.countP Line.isHalt * (script.lines.countP remembers + 1) = 2 ∧
      (script.playThrough Tape settings Context.opening .beginning).2 ≠ .endless := by decide +kernel
  obtain ⟨limited, bound, ends⟩ := facts
  obtain ⟨_, _, _, endless⟩ := playsOn_iff_not_haltsAgain Tape script Context.opening .beginning limited
  exact ⟨limited, bound, fun again => ends (endless.mpr again), ends⟩

end Script
end Narrative
