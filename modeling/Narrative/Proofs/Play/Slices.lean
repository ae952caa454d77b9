import Mathlib.Data.Prod.Basic
import Narrative.Proofs.Play.Endings
import Narrative.Script.Check

/-!
Runs in slices. A limit on lines only cuts a run into slices: run on from where it stands each time that the
limit stops it, a script does what one run without a limit does (`sliced_of_unlimited`).
-/
namespace Narrative

variable {σ : Type} [Generator σ]

namespace Script

/-- A script is run from a start, and on from where it stands each time that the limit on lines stops it. After
    a number of stops it ends in another way. -/
inductive Resumes (script : Script) (settings : PlaySettings) (ctx : Context) :
    Start → Playback σ → Nat → Playback σ → Ending → Prop where
  | ended {start : Start} {state last : Playback σ} {ending : Ending}
      (ran : script.run settings ctx start state = (last, ending))
      (free : ending ≠ .fault (.stepLimit settings.stepLimit)) : Resumes script settings ctx start state 0 last ending
  | stopped {start : Start} {state between last : Playback σ} {stops : Nat} {ending : Ending}
      (ran : script.run settings ctx start state = (between, .fault (.stepLimit settings.stepLimit)))
      (rest : Resumes script settings ctx .resume between stops last ending) :
      Resumes script settings ctx start state (stops + 1) last ending

section
variable {script : Script} {settings : PlaySettings} {ctx : Context} {start : Start} {state last : Playback σ}
  {ending : Ending}

/-- Running on from each stop leads to one end only. -/
theorem Resumes.unique {stops stops' : Nat} {last' : Playback σ} {ending' : Ending}
    (resumes : script.Resumes settings ctx start state stops last ending)
    (other : script.Resumes settings ctx start state stops' last' ending') :
    stops' = stops ∧ last' = last ∧ ending' = ending := by
  induction resumes generalizing stops' with
  | ended ran free =>
    cases other with
    | ended ran' free' =>
      rw [ran] at ran'
      cases ran'
      exact ⟨rfl, rfl, rfl⟩
    | stopped ran' rest' =>
      rw [ran] at ran'
      exact absurd (Prod.mk.inj ran').2 free
  | stopped ran rest ih =>
    cases other with
    | ended ran' free' =>
      rw [ran] at ran'
      exact absurd (Prod.mk.inj ran').2.symm free'
    | stopped ran' rest' =>
      rw [ran] at ran'
      cases ran'
      obtain ⟨same, reached, ended⟩ := ih rest'
      exact ⟨congrArg (· + 1) same, reached, ended⟩

/-- The limit stops exactly the runs of more lines than it allows. -/
theorem run_eq_stepLimit_iff {lines : Nat} (ends : script.Ends settings ctx start state lines last ending)
    (positive : 1 ≤ settings.stepLimit) :
    (script.run settings ctx start state).2 = .fault (.stepLimit settings.stepLimit) ↔ settings.stepLimit < lines := by
  have allowance : script.allowed settings state.presenter = settings.stepLimit :=
    allowed_of_pos script positive _
  constructor
  · intro stopped
    refine Nat.lt_of_not_le fun within => ?_
    rw [run_of_ends ends (by omega)] at stopped
    rw [← cutOff_of_pos positive] at stopped
    exact ends.ne_cutOff settings stopped
  · intro short
    obtain ⟨between, ran, _⟩ := run_of_short ends (by omega)
    rw [ran]
    exact cutOff_of_pos positive

/-- A run that ends is cut into slices as long as the limit, and the last one ends as the run does. -/
theorem resumes_of_ends {lines : Nat} (ends : script.Ends settings ctx start state lines last ending)
    (positive : 1 ≤ settings.stepLimit) :
    script.Resumes settings ctx start state ((lines - 1) / settings.stepLimit) last ending := by
  have allowance : ∀ presenter, script.allowed settings presenter = settings.stepLimit :=
    allowed_of_pos script positive
  induction lines using Nat.strongRecOn generalizing start state with
  | ind lines ih =>
    by_cases short : settings.stepLimit < lines
    · obtain ⟨between, ran, rest⟩ := run_of_short ends (by rw [allowance]; exact short)
      rw [cutOff_of_pos positive] at ran
      rw [allowance] at rest
      have later := ih (lines - settings.stepLimit) (by omega) rest
      have slices : (lines - 1) / settings.stepLimit = (lines - settings.stepLimit - 1) / settings.stepLimit + 1 := by
        rw [← Nat.add_div_right _ positive]
        congr 1
        omega
      rw [slices]
      exact .stopped ran later
    · have ran := run_of_ends ends (by rw [allowance]; omega)
      have single : (lines - 1) / settings.stepLimit = 0 := Nat.div_eq_of_lt (by omega)
      rw [single]
      exact .ended ran (cutOff_of_pos positive ▸ ends.ne_cutOff settings)

/-- A run that ends without a limit is cut into slices by any, and stopped by those that are less than its lines. -/
theorem resumes_of_run {limit : Nat} (positive : 1 ≤ limit)
    (ran : script.run { settings with stepLimit := 0 } ctx start state = (last, ending)) (ends : ending ≠ .endless) :
    let lines := (script.visits { settings with stepLimit := 0 } ctx start state).length
    script.Resumes { settings with stepLimit := limit } ctx start state ((lines - 1) / limit) last ending ∧
      ((script.run { settings with stepLimit := limit } ctx start state).2 = .fault (.stepLimit limit) ↔
        limit < lines) := by
  intro lines
  cases entered : script.entry ctx state.cursor start with
  | error fault =>
    have unread : lines = 0 := by simp [lines, visits, entered]
    have other : Ending.fault fault ≠ .fault (.stepLimit limit) := by
      have free := fault_ne_cutOff entered { settings with stepLimit := limit }
      rwa [cutOff_of_pos positive] at free
    rw [run_of_error entered] at ran
    cases ran
    rw [unread, run_of_error entered, Nat.zero_sub, Nat.zero_div]
    exact ⟨.ended (run_of_error entered) other, by simp [other]⟩
  | ok position =>
    have limited : script.Ends { settings with stepLimit := limit } ctx start state lines last ending :=
      (ends_of_run entered ran ends).withLimit limit
    exact ⟨resumes_of_ends limited positive, run_eq_stepLimit_iff limited positive⟩

private theorem stops_eq {limit : Nat} (positive : 1 ≤ limit) (lines : Nat) :
    (lines + limit - 1) / limit - 1 = (lines - 1) / limit := by
  cases lines with
  | zero => simp [Nat.div_eq_of_lt (Nat.sub_lt positive Nat.one_pos)]
  | succ n => simp [Nat.add_right_comm n 1 limit, Nat.add_div_right n positive]

end

/-- What a run without a limit does, a run with one does in slices: the same calls in the same order, to the same
    place with the same arrivals, to the same end. The limit stops it one time less than there are slices, which
    is not at all where it allows all the lines. -/
theorem sliced_of_unlimited {σ : Type} [Generator σ] {script : Script} {settings : PlaySettings} {ctx : Context}
    {start : Start} {state last : Playback σ} {ending : Ending} {limit : Nat} (positive : 1 ≤ limit)
    (ran : script.run { settings with stepLimit := 0 } ctx start state = (last, ending)) (ends : ending ≠ .endless) :
    let lines := (script.visits { settings with stepLimit := 0 } ctx start state).length
    (∀ stops final result, script.Resumes { settings with stepLimit := limit } ctx start state stops final result ↔
        stops = (lines + limit - 1) / limit - 1 ∧ final = last ∧ result = ending) ∧
      ((script.run { settings with stepLimit := limit } ctx start state).2 = .fault (.stepLimit limit) ↔
        limit < lines) := by
  intro lines
  obtain ⟨resumes, stopped⟩ := resumes_of_run positive ran ends
  refine ⟨fun stops final result => ?_, stopped⟩
  rw [stops_eq positive]
  constructor
  · exact fun other => resumes.unique other
  · rintro ⟨rfl, rfl, rfl⟩
    exact resumes

/-- A loop with pauses left to chance, left at the second arrival and ended by a halt: eleven lines, which a limit
    of four stops twice and a limit of eleven not at all. -/
theorem sliced_loop :
    let script := Script.parse "loop"
      "label start\nHero: Wait.\npause 1 3\nfirstswitch seen_end\njumpto start\nlabel seen_end\nbreak /// hasblade"
    let ctx : Context := { blade := .held }
    let state : Playback Tape := { chance := ⟨[3, 1]⟩ }
    script.accepted {} = true ∧ ∃ last, script.run { stepLimit := 0 } ctx .beginning state = (last, .broke) ∧
      script.Resumes { stepLimit := 4 } ctx .beginning state 2 last .broke ∧
      (script.run { stepLimit := 11 } ctx .beginning state).2 ≠ .fault (.stepLimit 11) := by
  intro script ctx state
  have facts : script.accepted {} = true ∧ (script.run { stepLimit := 0 } ctx .beginning state).2 = .broke ∧
      (script.visits { stepLimit := 0 } ctx .beginning state).length = 11 := by decide +kernel
  obtain ⟨accepted, broke, lines⟩ := facts
  have ran := Prod.snd_eq_iff.mp broke
  obtain ⟨slices, _⟩ :=
    @sliced_of_unlimited Tape _ script {} ctx .beginning state _ .broke 4 (by decide) ran (by decide)
  obtain ⟨_, within⟩ :=
    @sliced_of_unlimited Tape _ script {} ctx .beginning state _ .broke 11 (by decide) ran (by decide)
  rw [lines] at slices within
  exact ⟨accepted, _, ran, (slices 2 _ .broke).mpr ⟨rfl, rfl, rfl⟩,
    fun stopped => absurd (within.mp stopped) (by decide)⟩

end Script
end Narrative
