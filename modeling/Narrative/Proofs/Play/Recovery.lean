import Mathlib.Data.List.Forall2
import Narrative.Proofs.Play.Patience
import Narrative.Proofs.Script.Lines

/-!
Failures of the presenter. Up to the call that fails, a run does what it does with a presenter that never fails
(`advance_allowing`), and a line that calls the presenter remembers nothing, so the failure leaves the cursor as it
was before that line (`step_failing`). A run that resumes there makes the calls of the line and all later ones, where
the pauses left to chance may have other lengths (`Ends.alike`).
-/
namespace Narrative

variable {σ : Type} [Generator σ]

namespace Call

/-- A pause of a number of seconds under the settings. -/
def pauseOf (settings : PlaySettings) (seconds : Nat) : Call :=
  .pause (.ofSeconds (Float.ofNat seconds * PlaySettings.nonNegative settings.pauseScale))

/-- Two calls are the same, or both are the pause of one line of the script that leaves its length to chance. -/
inductive Alike (script : Script) (settings : PlaySettings) : Call → Call → Prop where
  | same (call : Call) : Alike script settings call call
  | ranged {line : Line} {min max a b : Nat} (member : line ∈ script.lines)
      (pauses : line.directive? = some (.pause min max)) (varies : min < max)
      (between : min ≤ a ∧ a ≤ max) (between' : min ≤ b ∧ b ≤ max) :
      Alike script settings (pauseOf settings a) (pauseOf settings b)

theorem Alike.refl_list (script : Script) (settings : PlaySettings) (calls : List Call) :
    List.Forall₂ (Alike script settings) calls calls :=
  List.forall₂_same.mpr fun call _ => .same call

end Call

/-- Chance has no say in the calls of a directive, the length of a ranged pause aside. -/
theorem Directive.calls_alike {script : Script} {line : Line} {directive : Directive} (member : line ∈ script.lines)
    (written : line.directive? = some directive) (settings : PlaySettings) (chance chance' : σ) :
    List.Forall₂ (Call.Alike script settings) (directive.calls settings chance).1
      (directive.calls settings chance').1 := by
  cases directive with
  | pause min max =>
    obtain ⟨keyword, args, _, read⟩ := Line.directive?_eq_some_iff.mp written
    have ordered := Directive.le_of_read read
    by_cases fixed : min = max
    · simp only [Directive.calls, fixed, beq_self_eq_true, if_true]
      exact Call.Alike.refl_list script settings _
    · simp only [Directive.calls, beq_iff_eq, fixed, if_false]
      exact .cons (.ranged member written (Nat.lt_of_le_of_ne ordered fixed) (Generator.draw_mem ordered chance)
        (Generator.draw_mem ordered chance')) .nil
  | nowPlaying track => exact Call.Alike.refl_list script settings _
  | _ => exact .nil

/-- Chance has no say in the calls of a line either. -/
theorem perform_alike {script : Script} {line : Line} (member : line ∈ script.lines) (settings : PlaySettings)
    (ctx : Context) (seen : List Arrival) (chance chance' : σ) :
    List.Forall₂ (Call.Alike script settings) (line.perform script settings ctx seen chance).calls
      (line.perform script settings ctx seen chance').calls := by
  by_cases runs : line.runsIn ctx = true
  · cases content : line.content with
    | blank => simp [Line.perform, runs, content]
    | dialogue speaker text unknown =>
      simp only [Line.perform, runs, content]
      exact Call.Alike.refl_list script settings _
    | directive keyword args =>
      cases read : Directive.read keyword args with
      | error fault => simp [Line.perform, runs, content, read]
      | ok directive =>
        have written : line.directive? = some directive := Line.directive?_eq_some_iff.mpr ⟨_, _, content, read⟩
        have alike := Directive.calls_alike member written settings chance chance'
        cases arrives : directive.arrival? ctx line.index <;>
          simpa [Line.perform, runs, content, read, arrives] using alike
  · simp [Line.perform, runs]

namespace Presenter

theorem receiveAll_of_enough (heard : Array Call) {calls : List Call} {left : Nat} (enough : calls.length ≤ left) :
    Presenter.receiveAll ⟨heard, some left⟩ calls = (⟨heard ++ calls.toArray, some (left - calls.length)⟩, true) := by
  induction calls generalizing heard left with
  | nil => simp [receiveAll]
  | cons call rest ih =>
    obtain ⟨more, rfl⟩ : ∃ more, left = more + 1 := ⟨left - 1, by simp at enough; omega⟩
    have later : rest.length ≤ more := Nat.le_of_succ_le_succ enough
    have pushed : heard.push call ++ rest.toArray = heard ++ (call :: rest).toArray := by
      rw [← Array.toList_inj]
      simp
    simp only [receiveAll, receive?, Allowance.spend?, Option.map_some, ih _ later, pushed, List.length_cons,
      Nat.add_sub_add_right]

theorem receiveAll_of_short (heard : Array Call) {calls : List Call} {left : Nat} (short : left < calls.length) :
    Presenter.receiveAll ⟨heard, some left⟩ calls = (⟨heard ++ (calls.take left).toArray, some 0⟩, false) := by
  induction calls generalizing heard left with
  | nil => cases short
  | cons call rest ih =>
    cases left with
    | zero => simp [receiveAll, receive?, Allowance.spend?]
    | succ more =>
      have later : more < rest.length := Nat.lt_of_succ_lt_succ short
      have pushed :
          heard.push call ++ (rest.take more).toArray = heard ++ ((call :: rest).take (more + 1)).toArray := by
        rw [← Array.toList_inj]
        simp
      simp only [receiveAll, receive?, Allowance.spend?, Option.map_some, ih _ later, pushed]

end Presenter

namespace Playback

/-- The playback with a presenter that fails after a number of further calls. -/
def allowing (state : Playback σ) (calls : Nat) : Playback σ :=
  { state with presenter := { state.presenter with allowance := some calls } }

section
variable {script : Script} {settings : PlaySettings} {ctx : Context} {state next : Playback σ} {line : Line}
  {verdict : Option Ending} {allowed left : Nat}

/-- A line takes its course where the presenter does not fail at it. -/
theorem step_allowing (unfailing : state.presenter.allowance = none)
    (enough : (line.perform script settings ctx state.cursor.seen state.chance).calls.length ≤ left)
    (step : state.step script settings ctx line = (next, verdict)) :
    (state.allowing left).step script settings ctx line =
      (next.allowing (left - (line.perform script settings ctx state.cursor.seen state.chance).calls.length),
        verdict) := by
  rw [step_of_unfailing _ _ _ _ _ unfailing] at step
  obtain ⟨reached, ended⟩ := Prod.mk.inj step
  rw [step_eq, ← reached, ← ended]
  simp only [allowing, Presenter.receiveAll_of_enough _ enough, if_true]

/-- A failure leaves the cursor as it was before the line. -/
theorem step_failing (short : left < (line.perform script settings ctx state.cursor.seen state.chance).calls.length) :
    (state.allowing left).step script settings ctx line =
      (⟨state.cursor, (line.perform script settings ctx state.cursor.seen state.chance).chance,
        ⟨state.presenter.calls ++
          ((line.perform script settings ctx state.cursor.seen state.chance).calls.take left).toArray, some 0⟩⟩,
        some .deviceFailed) := by
  have speaks : (line.perform script settings ctx state.cursor.seen state.chance).calls ≠ [] :=
    List.ne_nil_of_length_pos (by omega)
  have kept := (perform_of_calls script ctx line state.cursor.seen settings state.chance speaks).1
  rw [step_eq]
  simp only [allowing, Presenter.receiveAll_of_short _ short, kept, Bool.false_eq_true, if_false]

theorem calls_of_advance (unfailing : state.presenter.allowance = none)
    (advanced : state.advance script settings ctx allowed = (next, verdict)) :
    ∃ made, next.presenter.calls.toList = state.presenter.calls.toList ++ made := by
  induction allowed, state using advance_induction σ script settings ctx with
  | finished allowed state outside =>
    rw [advance_finished outside] at advanced
    cases advanced
    exact ⟨[], (List.append_nil _).symm⟩
  | stopped state line here =>
    rw [advance_zero here] at advanced
    cases advanced
    exact ⟨[], (List.append_nil _).symm⟩
  | last allowed state line last ending here ends =>
    rw [advance_of_last here ends] at advanced
    cases advanced
    exact ⟨_, calls_of_step unfailing ends⟩
  | next allowed state line after here continues ih =>
    rw [advance_of_next here continues] at advanced
    obtain ⟨made, later⟩ := ih (allowance_of_step unfailing continues) advanced
    rw [later, calls_of_step unfailing continues]
    exact ⟨_, List.append_assoc _ _ _⟩

/-- Until the presenter fails, a run does what it does without a failure. -/
theorem advance_allowing {reached : Playback σ} (unfailing : state.presenter.allowance = none)
    (on : state.advance script settings ctx allowed = (reached, none))
    (enough : reached.presenter.calls.size ≤ state.presenter.calls.size + left) :
    (state.allowing left).advance script settings ctx allowed =
      (reached.allowing (state.presenter.calls.size + left - reached.presenter.calls.size), none) := by
  induction allowed, state using advance_induction σ script settings ctx generalizing left with
  | finished allowed state outside =>
    rw [advance_finished outside] at on
    cases on
  | stopped state line here =>
    rw [advance_zero here] at on
    obtain ⟨rfl, _⟩ := Prod.mk.inj on
    have there : script.line? (state.allowing left).cursor.position = some line := here
    rw [advance_zero there, Nat.add_sub_cancel_left]
  | last allowed state line last ending here ends =>
    rw [advance_of_last here ends] at on
    cases on
  | next allowed state line next here continues ih =>
    rw [advance_of_next here continues] at on
    have heard := congrArg List.length (calls_of_step unfailing continues)
    obtain ⟨made, later⟩ := calls_of_advance (allowance_of_step unfailing continues) on
    have grown := congrArg List.length later
    simp only [List.length_append, Array.length_toList] at heard grown
    have there : script.line? (state.allowing left).cursor.position = some line := here
    rw [advance_of_next there (step_allowing unfailing (by omega) continues),
      ih (allowance_of_step unfailing continues) on (by omega)]
    congr 2
    omega

end

section
variable {script : Script} {settings : PlaySettings} {ctx : Context} {state full : Playback σ} {lines : Nat}
  {ending : Ending}

/-- Every call that a run makes is made by a line that it executes. -/
theorem Ends.exists_line_of_call (ends : Ends script settings ctx lines state full ending)
    (unfailing : state.presenter.allowance = none) {place : Nat} (later : state.presenter.calls.size ≤ place)
    (within : place < full.presenter.calls.size) :
    ∃ spent reached line, spent < lines ∧ state.advance script settings ctx spent = (reached, none) ∧
      script.line? reached.cursor.position = some line ∧ reached.presenter.calls.size ≤ place ∧
      place < reached.presenter.calls.size +
        (line.perform script settings ctx reached.cursor.seen reached.chance).calls.length := by
  induction ends with
  | finished outside => omega
  | @last state last line ending here ends =>
    have heard := congrArg List.length (calls_of_step unfailing ends)
    simp only [List.length_append, Array.length_toList] at heard
    exact ⟨0, state, line, Nat.one_pos, advance_zero here, here, later, by omega⟩
  | @next state next last line lines ending here continues rest ih =>
    have heard := congrArg List.length (calls_of_step unfailing continues)
    simp only [List.length_append, Array.length_toList] at heard
    by_cases own : place < next.presenter.calls.size
    · exact ⟨0, state, line, Nat.succ_pos lines, advance_zero here, here, later, by omega⟩
    · obtain ⟨spent, reached, line', fewer, on, there, first, made⟩ :=
        ih (allowance_of_step unfailing continues) (Nat.le_of_not_lt own) within
      exact ⟨spent + 1, reached, line', Nat.succ_lt_succ fewer, by rw [advance_of_next here continues, on], there,
        first, made⟩

/-- The calls of a run begin with those of its first line. -/
theorem Ends.calls_eq {line : Line} (ends : Ends script settings ctx lines state full ending)
    (unfailing : state.presenter.allowance = none) (here : script.line? state.cursor.position = some line) :
    ∃ later, full.presenter.calls.toList = state.presenter.calls.toList ++
      ((line.perform script settings ctx state.cursor.seen state.chance).calls ++ later) := by
  have followed := ends.advance (Nat.le_refl lines)
  cases ends with
  | finished outside =>
    rw [outside] at here
    cases here
  | last there ends =>
    rw [there] at here
    cases here
    exact ⟨[], by rw [calls_of_step unfailing ends, List.append_nil]⟩
  | @next state next last line' lines ending there continues rest =>
    rw [there] at here
    cases here
    rw [advance_of_next there continues] at followed
    obtain ⟨made, grown⟩ := calls_of_advance (allowance_of_step unfailing continues) followed
    rw [calls_of_step unfailing continues] at grown
    exact ⟨made, by rw [grown, List.append_assoc]⟩

/-- A presenter that fails at a call of a run ends it at the line that makes the call, before the call. -/
theorem Ends.failing (ends : Ends script settings ctx lines state full ending)
    (unfailing : state.presenter.allowance = none) (left : Nat)
    (within : state.presenter.calls.size + left < full.presenter.calls.size) :
    ∃ spent reached line failed, spent < lines ∧ state.advance script settings ctx spent = (reached, none) ∧
      script.line? reached.cursor.position = some line ∧
      reached.presenter.calls.size ≤ state.presenter.calls.size + left ∧
      state.presenter.calls.size + left < reached.presenter.calls.size +
        (line.perform script settings ctx reached.cursor.seen reached.chance).calls.length ∧
      (state.allowing left).advance script settings ctx (spent + 1) = (failed, some .deviceFailed) ∧
      failed.cursor = reached.cursor ∧
      failed.presenter.calls.toList = full.presenter.calls.toList.take (state.presenter.calls.size + left) := by
  obtain ⟨spent, reached, line, fewer, on, here, first, own⟩ :=
    ends.exists_line_of_call unfailing (Nat.le_add_right _ left) within
  obtain ⟨between, on', rest⟩ := ends.split fewer
  rw [on] at on'
  obtain ⟨rfl, _⟩ := Prod.mk.inj on'
  have unfailing' : reached.presenter.allowance = none := by
    have kept : (state.advance script settings ctx spent).1.presenter.allowance = none :=
      allowance_of_advance unfailing
    rwa [on] at kept
  -- The failing run reaches the same line, and there it is left with too few calls.
  have stops := advance_allowing unfailing on first
  have fails := @step_failing σ _ script settings ctx reached line
    (state.presenter.calls.size + left - reached.presenter.calls.size) (by omega)
  have there : script.line? (reached.allowing
      (state.presenter.calls.size + left - reached.presenter.calls.size)).cursor.position = some line := here
  refine ⟨spent, reached, line, _, fewer, on, here, first, own,
    (advance_add stops 1).trans (advance_of_last there fails), rfl, ?_⟩
  obtain ⟨later, heard⟩ := rest.calls_eq unfailing' here
  have before : reached.presenter.calls.toList.take (state.presenter.calls.size + left) =
      reached.presenter.calls.toList := List.take_of_length_le (by simpa using first)
  rw [heard, List.take_append, before, Array.length_toList, List.take_append_of_le_length (by omega)]
  simp

end

section
variable (script : Script) (settings : PlaySettings)

/-- Two playbacks at one cursor, whose presenters never fail and have heard alike calls since they had heard certain
    ones. -/
structure Abreast (before before' : List Call) (state other : Playback σ) : Prop where
  cursor : state.cursor = other.cursor
  unfailing : state.presenter.allowance = none
  unfailing' : other.presenter.allowance = none
  alike : ∃ made made', state.presenter.calls.toList = before ++ made ∧
    other.presenter.calls.toList = before' ++ made' ∧ List.Forall₂ (Call.Alike script settings) made made'

variable {script settings} {ctx : Context} {before before' : List Call} {state other : Playback σ}

theorem Abreast.step {next : Playback σ} {line : Line} {verdict : Option Ending}
    (abreast : Abreast script settings before before' state other)
    (here : script.line? state.cursor.position = some line)
    (step : state.step script settings ctx line = (next, verdict)) :
    ∃ next', other.step script settings ctx line = (next', verdict) ∧
      Abreast script settings before before' next next' := by
  obtain ⟨same, unfailing, unfailing', made, made', heard, heard', alike⟩ := abreast
  obtain ⟨next', step', reached⟩ := step_of_same settings same unfailing unfailing' step
  refine ⟨next', step', reached, allowance_of_step unfailing step, allowance_of_step unfailing' step', ?_⟩
  have own := perform_alike (List.mem_of_getElem? here) settings ctx state.cursor.seen state.chance other.chance
  refine ⟨_, _, ?_, ?_, List.rel_append alike own⟩
  · rw [calls_of_step unfailing step, heard, List.append_assoc]
  · rw [calls_of_step unfailing' step', heard', List.append_assoc, same]

/-- A run from the same cursor makes alike calls, comes to the same cursor and ends in the same way. -/
theorem Ends.alike {lines : Nat} {last : Playback σ} {ending : Ending}
    (ends : Ends script settings ctx lines state last ending)
    (abreast : Abreast script settings before before' state other) :
    ∃ last', Ends script settings ctx lines other last' ending ∧ Abreast script settings before before' last last' := by
  refine ends.simulate (R := Abreast script settings before before') ?_ ?_ abreast
  · intro state other abreast outside
    rwa [← abreast.cursor]
  · intro state other next line verdict abreast here step
    obtain ⟨next', step', abreast'⟩ := abreast.step here step
    exact ⟨line, next', abreast.cursor ▸ here, step', abreast'⟩

end
end Playback

namespace Script

/-- A run has failed at a call that the line of a visit makes: the presenter has heard the calls before that one, and
    the cursor is as it was when the line was entered. -/
structure FailsAt (script : Script) (settings : PlaySettings) (ctx : Context) (full failed : Playback σ) (place : Nat)
    (visit : Playback σ × Line) : Prop where
  before : visit.1.presenter.calls.size ≤ place
  own : place < visit.1.presenter.calls.size +
    (visit.2.perform script settings ctx visit.1.cursor.seen visit.1.chance).calls.length
  heard : failed.presenter.calls.toList = full.presenter.calls.toList.take place
  line : script.line? failed.cursor.position = some visit.2
  cursor : failed.cursor = visit.1.cursor

/-- A run has made up for what another one does after some of its calls, up to the lengths of ranged pauses. -/
structure CatchesUp (script : Script) (settings : PlaySettings) (full resumed : Playback σ) (calls : Nat) : Prop where
  cursor : resumed.cursor = full.cursor
  alike : List.Forall₂ (Call.Alike script settings) (full.presenter.calls.toList.drop calls)
    resumed.presenter.calls.toList

/-- Without a limit on lines, a failure of the presenter at a call of a run that ends loses nothing. The run stops
    before that call, and the cursor as it was before the line that makes it. Resumed with a presenter that works, it
    makes the calls of that line and all later ones, and ends as if nothing had failed. -/
theorem resumed_of_failed_call {σ : Type} [Generator σ] {script : Script} {settings : PlaySettings}
    (unlimited : settings.stepLimit = 0) {ctx : Context} {start : Start} {cursor : Cursor} {chance : σ}
    {full : Playback σ} {ending : Ending} {place : Nat}
    (ran : script.run settings ctx start ⟨cursor, chance, {}⟩ = (full, ending))
    (ends : ending ≠ .endless) (within : place < full.presenter.calls.size) :
    ∃ failed resumed,
      script.run settings ctx start ⟨cursor, chance, { allowance := some place }⟩ = (failed, .deviceFailed) ∧
      script.run settings ctx .resume ⟨failed.cursor, failed.chance, {}⟩ = (resumed, ending) ∧
      ∃ visit ∈ script.visits settings ctx start ⟨cursor, chance, {}⟩,
        FailsAt script settings ctx full failed place visit ∧
        CatchesUp script settings full resumed visit.1.presenter.calls.size := by
  cases entered : script.entry ctx cursor start with
  | error fault =>
    rw [run_of_error entered] at ran
    cases ran
    cases within
  | ok position =>
    have free : ending ≠ cutOff settings := by rwa [cutOff_of_unlimited unlimited]
    obtain ⟨_, entered', ended⟩ :=
      @ends_of_run σ _ script settings ctx start ⟨cursor, chance, {}⟩ _ _ _ entered ran free
    obtain rfl := Except.ok.inj (entered.symm.trans entered')
    have patient := ended.le_patience rfl
    have allowance := script.allowed_of_unlimited unlimited
    obtain ⟨spent, reached, line, failed, fewer, on, here, first, own, fails, kept, heard⟩ :=
      ended.failing rfl place (by simpa using within)
    simp only [List.size_toArray, List.length_nil, Nat.zero_add] at first own heard
    have stopped : script.run settings ctx start ⟨cursor, chance, { allowance := some place }⟩ =
        (failed, .deviceFailed) := by
      obtain ⟨failing, short⟩ := Playback.ends_of_advance fails
      refine run_of_ends ⟨position, entered, failing⟩ ?_
      have longer : script.patience ≤ script.patience * (place + 1) := Nat.le_mul_of_pos_right _ (Nat.succ_pos place)
      rw [allowance, horizon]
      exact Nat.le_trans short (by omega)
    -- The rest of the run is the same from the cursor that the failure leaves behind.
    obtain ⟨between, on', rest⟩ := ended.split fewer
    obtain ⟨rfl, _⟩ := Prod.mk.inj (on.symm.trans on')
    have working : (Playback.advance script settings ctx spent
        ⟨cursor.moveTo position, chance, {}⟩).1.presenter.allowance = none := Playback.allowance_of_advance rfl
    rw [on] at working
    have together : Playback.Abreast script settings reached.presenter.calls.toList [] reached
        ⟨failed.cursor, failed.chance, {}⟩ := ⟨kept.symm, working, rfl, [], [], by simp, rfl, .nil⟩
    obtain ⟨resumed, again, abreast⟩ := rest.alike together
    obtain ⟨resumes, _⟩ := (run_resume_iff unlimited rfl).mpr ⟨_, again⟩
    have visited : (reached, line) ∈ script.visits settings ctx start ⟨cursor, chance, {}⟩ := by
      rw [visits, entered]
      refine List.mem_of_getElem? (Playback.visits_getElem?_iff.mpr ⟨?_, on, here⟩)
      rw [allowance, horizon]
      omega
    obtain ⟨made, made', calls, calls', alike⟩ := abreast.alike
    refine ⟨failed, resumed, stopped, resumes, (reached, line), visited, ⟨first, own, heard, kept ▸ here, kept⟩,
      abreast.cursor.symm, ?_⟩
    rw [calls, calls', List.drop_left' (by simp)]
    exact alike

/-- A loop with a pause left to chance, where the acknowledgement fails that follows the line of the first round: the
    cursor stays on that line, with the arrival at the switch before it. -/
theorem resumed_of_failed_acknowledgement :
    let script := Script.parse "loop"
      "label start\npause 1 3\nfirstswitch seen_end\nHero: Wait.\njumpto start\nlabel seen_end\nHero: Go."
    let settings : PlaySettings := { stepLimit := 0 }
    let chance : Tape := ⟨[1, 3, 2]⟩
    script.accepted {} = true ∧ ∃ full failed resumed,
      script.run settings {} .beginning ⟨{}, chance, {}⟩ = (full, .finished) ∧ full.presenter.calls.size = 6 ∧
      script.run settings {} .beginning ⟨{}, chance, { allowance := some 2 }⟩ = (failed, .deviceFailed) ∧
      failed.cursor = ⟨3, [.first 2]⟩ ∧
      script.run settings {} .resume ⟨failed.cursor, failed.chance, {}⟩ = (resumed, .finished) ∧
      ∃ visit ∈ script.visits settings {} .beginning ⟨{}, chance, {}⟩,
        FailsAt script settings {} full failed 2 visit ∧
        CatchesUp script settings full resumed visit.1.presenter.calls.size := by
  intro script settings chance
  have facts : script.accepted {} = true ∧
      (script.run settings {} .beginning ⟨{}, chance, {}⟩).2 = .finished ∧
      (script.run settings {} .beginning ⟨{}, chance, {}⟩).1.presenter.calls.size = 6 ∧
      (script.run settings {} .beginning ⟨{}, chance, { allowance := some 2 }⟩).1.cursor = ⟨3, [.first 2]⟩ := by
    decide +kernel
  obtain ⟨accepted, finished, calls, place⟩ := facts
  have ran := Prod.snd_eq_iff.mp finished
  have unlimited : settings.stepLimit = 0 := rfl
  have within : 2 < (script.run settings {} .beginning ⟨{}, chance, {}⟩).1.presenter.calls.size := by omega
  obtain ⟨failed, resumed, stopped, resumes, recovers⟩ := resumed_of_failed_call unlimited ran (by decide) within
  rw [stopped] at place
  exact ⟨accepted, _, failed, resumed, ran, calls, stopped, place, resumes, recovers⟩

end Script
end Narrative
