import Mathlib.Data.List.Forall2
import Narrative.Proofs.Play.Recurrence
import Narrative.Proofs.Script.Acceptance

/-!
Halts are transparent. A script that is played on from each halt does what one run of another script does, in which
every halt is a blank line (`Script.Blanked`). Line by line, both scripts do the same, but for a halt, where the first
run ends and the blank line goes on (`Blanked.step`). So the runs between halts join to one run (`Blanked.join`), and
one run falls apart into runs between halts (`Blanked.playsOn`). A halt that is written with an argument is none: where
a check lets it pass, it ends runs with a fault (`not_playsOn_of_argument`).
-/
namespace Narrative

variable {σ : Type} [Generator σ]

/-- A line, and the line in its place where halts are blanked out. -/
inductive Line.Blanked (line other : Line) : Prop where
  | halt (halts : line.isHalt = true) (blank : other.content = .blank)
  /-- Any other line keeps what it says and does, but not its bytes in the source. -/
  | kept (stays : line.isHalt = false) (index : other.index = line.index)
      (content : other.content = line.content) (modifiers : other.modifiers = line.modifiers)

/-- A script, and another one in which its halts are blanked out. -/
def Script.Blanked (script blanked : Script) : Prop := List.Forall₂ Line.Blanked script.lines blanked.lines

/-- A halt in a script, as a line without a text. -/
def Line.withoutHalt (line : Line) : Line :=
  if line.isHalt then { line with raw := "", content := .blank, block := .absent } else line

/-- The script with its halts blanked out. -/
def Script.withoutHalts (script : Script) : Script := { script with lines := script.lines.map Line.withoutHalt }

theorem Script.blanked_withoutHalts (script : Script) : script.Blanked script.withoutHalts := by
  refine List.forall₂_map_right_iff.mpr (List.forall₂_same.mpr fun line _ => ?_)
  cases halts : line.isHalt with
  | true => exact .halt halts (by simp [Line.withoutHalt, halts])
  | false =>
    have same : line.withoutHalt = line := by simp [Line.withoutHalt, halts]
    exact .kept halts (by rw [same]) (by rw [same]) (by rw [same])

/-- In a script that is accepted with arguments of halts as errors, every line with the keyword of a halt is one. -/
theorem isHalt_of_accepted {policy : Policy} (error : policy.severityOf .breakWithArgument = .error) {script : Script}
    (accepted : script.accepted policy = true) {line : Line} (member : line ∈ script.lines)
    (word : line.keyword? = some .halt) : line.isHalt = true := by
  unfold Line.keyword? at word
  split at word
  · rename_i keyword args content
    obtain rfl := Option.some.inj word
    by_cases bare : args.isEmpty = true
    · refine beq_iff_eq.mpr (Line.directive?_eq_some_iff.mpr ⟨_, _, content, ?_⟩)
      rw [Directive.read, if_pos bare]
    · have found : ⟨.breakWithArgument, args⟩ ∈ script.issues line := by
        simp [Script.issues, Line.issues, Line.directiveIssues, content, Directive.read, bare, Line.argumentIssue]
      have noted := severityOf_of_accepted accepted member found
      rw [error] at noted
      cases noted
  · cases word

theorem definition?_of_isHalt {line : Line} (halts : line.isHalt = true) : line.definition? = none := by
  simp [Line.definition?, beq_iff_eq.mp halts, Directive.definition?]

/-- Blanking out halts takes no label away. -/
theorem Line.Blanked.definition? {line other : Line} (pair : Line.Blanked line other) :
    other.definition?.map (Label.mk · other.index) = line.definition?.map (Label.mk · line.index) := by
  cases pair with
  | halt halts blank =>
    have nothing : other.definition? = none := by simp [Line.definition?, Line.directive?, Content.directive?, blank]
    rw [nothing, definition?_of_isHalt halts]
    rfl
  | kept stays index content modifiers => simp only [Line.definition?, Line.directive?, content, index]

namespace Script.Blanked
variable {script blanked : Script}

theorem size (blanks : script.Blanked blanked) : blanked.size = script.size := (List.Forall₂.length_eq blanks).symm

theorem labels (blanks : script.Blanked blanked) : blanked.labels = script.labels :=
  Script.labels_congr (List.Forall₂.imp (fun _ _ pair => pair.definition?) blanks)

/-- A line of the one script has a line of the other in its place. -/
theorem exists_line (blanks : script.Blanked blanked) {place : Nat} {other : Line}
    (there : blanked.line? place = some other) : ∃ line, script.line? place = some line ∧ Line.Blanked line other :=
  Script.exists_pair (R := fun other line => Line.Blanked line other) (List.Forall₂.flip blanks) there

end Script.Blanked

section
variable (script : Script) (settings : PlaySettings) (ctx : Context) (seen : List Arrival) (chance : σ)

/-- All that a halt can do is to halt. -/
theorem perform_of_isHalt {line : Line} (halts : line.isHalt = true) :
    line.perform script settings ctx seen chance = ⟨[], seen, chance, .ok .next⟩ ∨
      line.perform script settings ctx seen chance = ⟨[], seen, chance, .ok .halt⟩ := by
  obtain ⟨keyword, args, content, read⟩ := Line.directive?_eq_some_iff.mp (beq_iff_eq.mp halts)
  by_cases runs : line.runsIn ctx = true
  · by_cases gated : line.hasFlagGate = true
    · refine .inr ?_
      simp [Line.perform, runs, content, read, Directive.calls, Directive.arrival?, Directive.route, gated]
    · refine .inl ?_
      simp [Line.perform, runs, content, read, Directive.calls, Directive.arrival?, Directive.route, gated]
  · exact .inl (by simp [Line.perform, runs])

end

/-- Line by line, both scripts do the same, but for a halt, where the one run ends and the other goes on. -/
theorem Script.Blanked.step {script blanked : Script} (blanks : script.Blanked blanked) (state : Playback σ)
    {line other : Line} (pair : Line.Blanked line other) (settings : PlaySettings) (ctx : Context) :
    (state.step blanked settings ctx other = state.step script settings ctx line ∧
        (state.step script settings ctx line).2 ≠ some .broke) ∨
      ∃ next, state.step script settings ctx line = (next, some .broke) ∧
        state.step blanked settings ctx other = (next, none) := by
  cases pair with
  | halt halts blank =>
    have passed := perform_of_blank blanked settings ctx state.cursor.seen state.chance blank
    rcases perform_of_isHalt script settings ctx state.cursor.seen state.chance halts with goes | breaks
    · refine .inl ?_
      simp [Playback.step, passed, goes, Presenter.receiveAll]
    · refine .inr ?_
      simp [Playback.step, passed, breaks, Presenter.receiveAll]
  | kept stays index content modifiers =>
    refine .inl ⟨?_, fun breaks => ?_⟩
    · simp only [Playback.step, perform_of_kept blanks.labels blanks.size index content modifiers]
    · rw [(Playback.isHalt_of_step script settings ctx state line (Prod.snd_eq_iff.mp breaks)).1] at stays
      cases stays

section
variable {script blanked : Script} {settings : PlaySettings} {ctx : Context} {state last : Playback σ} {lines : Nat}
  {ending : Ending}

/-- A run of a script is one of the other script, but where it halts, what is run from there belongs to it too. -/
theorem Script.Blanked.join (blanks : script.Blanked blanked)
    (ends : Playback.Ends script settings ctx lines state last ending) :
    (ending ≠ .broke → Playback.Ends blanked settings ctx lines state last ending) ∧
      (ending = .broke → ∀ {more final verdict}, Playback.Ends blanked settings ctx more last final verdict →
        Playback.Ends blanked settings ctx (more + lines) state final verdict) := by
  induction ends with
  | finished outside => exact ⟨fun _ => .finished ((Script.line?_eq_none_iff blanks).mpr outside), nofun⟩
  | @last state last line ending here ends =>
    obtain ⟨other, there, pair⟩ := Script.exists_pair blanks here
    rcases blanks.step state pair settings ctx with ⟨same, passes⟩ | ⟨next, breaks, goes⟩
    · rw [ends] at same passes
      exact ⟨fun _ => .last there same, fun broke => absurd (congrArg some broke) passes⟩
    · -- The halt ends the one run here; in the other, the blank line goes on to what is run next.
      rw [breaks] at ends
      cases ends
      exact ⟨fun stops => absurd rfl stops, fun _ _ _ _ rest => .next there goes rest⟩
  | @next state next last line lines ending here continues rest ih =>
    obtain ⟨other, there, pair⟩ := Script.exists_pair blanks here
    rcases blanks.step state pair settings ctx with ⟨same, passes⟩ | ⟨next, breaks, goes⟩
    · rw [continues] at same
      exact ⟨fun stops => .next there same (ih.1 stops), fun broke _ _ _ more => .next there same (ih.2 broke more)⟩
    · rw [breaks] at continues
      cases continues

/-- One run of the other script falls apart into runs from halt to halt. -/
theorem Script.Blanked.playsOn (blanks : script.Blanked blanked) (unlimited : settings.stepLimit = 0)
    (unfailing : state.presenter.allowance = none)
    (ends : Playback.Ends blanked settings ctx lines state last ending) :
    ∃ halts, script.PlaysOn settings ctx .resume state halts last ending := by
  induction ends with
  | @finished state outside =>
    have ended : script.line? state.cursor.position = none := (Script.line?_eq_none_iff blanks).mp outside
    exact ⟨0, Script.playsOn_of_ends unlimited unfailing (.finished ended) (by simp)⟩
  | @last state last other ending there ends =>
    obtain ⟨line, here, pair⟩ := blanks.exists_line there
    rcases blanks.step state pair settings ctx with ⟨same, passes⟩ | ⟨next, breaks, goes⟩
    · rw [same] at ends
      rw [ends] at passes
      refine ⟨0, Script.playsOn_of_ends unlimited unfailing (.last here ends) fun broke => ?_⟩
      exact passes (congrArg some broke)
    · rw [goes] at ends
      cases ends
  | @next state next last other lines ending there continues rest ih =>
    obtain ⟨halts, plays⟩ := ih (Playback.allowance_of_step unfailing continues)
    obtain ⟨line, here, pair⟩ := blanks.exists_line there
    rcases blanks.step state pair settings ctx with ⟨same, passes⟩ | ⟨next, breaks, goes⟩
    · rw [same] at continues
      exact ⟨halts, Script.playsOn_of_next unlimited unfailing here continues plays⟩
    · rw [goes] at continues
      cases continues
      exact ⟨halts + 1, Script.playsOn_of_halt unlimited unfailing (.last here breaks) plays⟩

/-- The runs from halt to halt join to one run of the other script. -/
theorem Script.Blanked.ends (blanks : script.Blanked blanked) (unlimited : settings.stepLimit = 0)
    (unfailing : state.presenter.allowance = none) {halts : Nat}
    (plays : script.PlaysOn settings ctx .resume state halts last ending) :
    ∃ lines, Playback.Ends blanked settings ctx lines state last ending := by
  induction halts generalizing state with
  | zero =>
    obtain ⟨ran, stops, closes⟩ := Script.playsOn_zero_iff.mp plays
    obtain ⟨lines, ends⟩ := (Script.run_resume_iff unlimited unfailing).mp ⟨ran, closes⟩
    exact ⟨lines, (blanks.join ends).1 stops⟩
  | succ halts ih =>
    obtain ⟨between, ran, rest⟩ := Script.playsOn_succ_iff.mp plays
    obtain ⟨lines, ends⟩ := (Script.run_resume_iff unlimited unfailing).mp ⟨ran, by simp⟩
    have working : (script.run settings ctx .resume state).1.presenter.allowance = none :=
      Script.allowance_of_run unfailing
    rw [ran] at working
    obtain ⟨more, rest⟩ := ih working rest
    exact ⟨more + lines, (blanks.join ends).2 rfl rest⟩

/-- Played on past every halt, a script comes where one run of the other script comes. -/
theorem Script.Blanked.playsOn_iff (blanks : script.Blanked blanked) (unlimited : settings.stepLimit = 0)
    (unfailing : state.presenter.allowance = none) (start : Start) :
    (∃ halts, script.PlaysOn settings ctx start state halts last ending) ↔
      blanked.run settings ctx start state = (last, ending) ∧ ending ≠ .endless := by
  cases entered : script.entry ctx state.cursor start with
  | error fault =>
    have lost : blanked.entry ctx state.cursor start = .error fault := by rw [Script.entry_congr blanks.labels, entered]
    rw [Script.run_of_error lost]
    constructor
    · rintro ⟨halts, plays⟩
      cases halts with
      | zero =>
        obtain ⟨ran, _, closes⟩ := Script.playsOn_zero_iff.mp plays
        rw [Script.run_of_error entered] at ran
        exact ⟨ran, closes⟩
      | succ halts =>
        obtain ⟨next, ran, _⟩ := Script.playsOn_succ_iff.mp plays
        rw [Script.run_of_error entered] at ran
        cases ran
    · rintro ⟨ran, closes⟩
      cases ran
      exact ⟨0, Script.playsOn_zero_iff.mpr ⟨Script.run_of_error entered, by simp, closes⟩⟩
  | ok position =>
    have entered' : blanked.entry ctx state.cursor start = .ok position := by
      rw [Script.entry_congr blanks.labels, entered]
    have unfailing' : ({ state with cursor := state.cursor.moveTo position } : Playback σ).presenter.allowance = none :=
      unfailing
    rw [Script.run_eq_resume entered', Script.run_resume_iff unlimited unfailing']
    simp only [Script.playsOn_iff_resume entered]
    constructor
    · rintro ⟨halts, plays⟩
      exact blanks.ends unlimited unfailing' plays
    · rintro ⟨lines, ends⟩
      exact blanks.playsOn unlimited unfailing' ends

end

/-- Without a limit on lines and with presenters that never fail, halts are transparent: a script that is played on from
    each halt comes to an end exactly if one run of the other script does, from the same start and in the same state,
    and then with the same calls, at the same cursor and with the same ending. The loop over runs makes these calls and
    ends as that run does. A check that takes arguments of halts for errors makes sure that all lines with the keyword
    are halts. -/
theorem playsOn_iff_run_blanked {σ : Type} [Generator σ] {script blanked : Script} (blanks : script.Blanked blanked)
    {settings : PlaySettings} (unlimited : settings.stepLimit = 0) (ctx : Context) (start : Start) (cursor : Cursor)
    (chance : σ) :
    let whole := blanked.run settings ctx start ⟨cursor, chance, {}⟩
    let loop := script.playRuns settings ctx (script.patience + 1) start cursor chance
    (∀ last ending, (∃ halts, script.PlaysOn settings ctx start ⟨cursor, chance, {}⟩ halts last ending) ↔
        whole = (last, ending) ∧ ending ≠ .endless) ∧
      loop.2 = whole.2 ∧
      (whole.2 ≠ .endless → loop.1.filterMap Moment.call? = whole.1.presenter.calls.toList) ∧
      ∀ policy : Policy, policy.severityOf .breakWithArgument = .error → script.accepted policy = true →
        ∀ line ∈ script.lines, line.keyword? = some .halt → line.isHalt = true := by
  intro whole loop
  have same : ∀ last ending, (∃ halts, script.PlaysOn settings ctx start ⟨cursor, chance, {}⟩ halts last ending) ↔
      whole = (last, ending) ∧ ending ≠ .endless :=
    fun last ending => blanks.playsOn_iff unlimited rfl start
  have checked : ∀ policy : Policy, policy.severityOf .breakWithArgument = .error → script.accepted policy = true →
      ∀ line ∈ script.lines, line.keyword? = some .halt → line.isHalt = true :=
    fun policy error accepted line member word => isHalt_of_accepted error accepted member word
  by_cases closes : whole.2 = .endless
  · refine ⟨same, ?_, fun other => absurd closes other, checked⟩
    by_contra different
    have ends : loop.2 ≠ .endless := fun endless => different (endless.trans closes.symm)
    obtain ⟨halts, last, _, plays⟩ := Script.playsOn_of_playRuns #[] ends
    obtain ⟨ran, opens⟩ := (same _ _).mp ⟨halts, plays⟩
    rw [ran] at closes
    exact opens closes
  · obtain ⟨halts, plays⟩ := (same whole.1 whole.2).mpr ⟨rfl, closes⟩
    have patient := (Script.halts_le_of_playsOn rfl plays).trans script.halts_le_patience
    obtain ⟨played, ended, calls⟩ := Script.playRuns_of_playsOn plays (Nat.lt_succ_of_le patient)
    have looped : loop = (played, whole.2) := ended
    rw [looped]
    exact ⟨same, rfl, fun _ => calls.symm, checked⟩

/-- A loop of two rounds with a halt in each, and a second halt that its gate keeps back. -/
theorem playsOn_of_two_rounds :
    let script := Script.parse "again"
      ("label start\nbreak /// nothasblade\npause 1 3\nbreak /// hasblade\n" ++
        "firstswitch seen_end\njumpto start\nlabel seen_end")
    let settings : PlaySettings := { stepLimit := 0 }
    let state : Playback Tape := { chance := ⟨[3, 1]⟩ }
    script.accepted {} = true ∧ script.Blanked script.withoutHalts ∧ ∃ last halts,
      script.withoutHalts.run settings {} .beginning state = (last, .finished) ∧
      script.PlaysOn settings {} .beginning state halts last .finished ∧
      ∀ line ∈ script.lines, line.keyword? = some .halt → line.isHalt = true := by
  intro script settings state
  have facts : script.accepted {} = true ∧ (script.withoutHalts.run settings {} .beginning state).2 = .finished ∧
      Policy.severityOf {} .breakWithArgument = .error := by
    decide +kernel
  obtain ⟨accepted, finished, error⟩ := facts
  have blanks := script.blanked_withoutHalts
  have ran := Prod.snd_eq_iff.mp finished
  have unlimited : settings.stepLimit = 0 := rfl
  obtain ⟨same, _, _, checked⟩ := playsOn_iff_run_blanked blanks unlimited {} .beginning {} state.chance
  obtain ⟨halts, plays⟩ := (same _ .finished).mpr ⟨ran, by decide⟩
  exact ⟨accepted, blanks, _, halts, ran, plays, checked {} error accepted⟩

/-- Not every line with the keyword of a halt is one: with an argument it ends runs with a fault, where a blank line in
    its place lets them finish, and a check that takes the argument for a note accepts it. -/
theorem not_playsOn_of_argument :
    let policy : Policy := { overrides := [(.breakWithArgument, .note)] }
    let script := Script.parse "halt" "break x /// nothasblade"
    let blanked := Script.parse "halt" "\n"
    let settings : PlaySettings := { stepLimit := 0 }
    let state : Playback Tape := { chance := {} }
    script.accepted policy = true ∧ script.lines.map (·.keyword?) = [some .halt] ∧
      blanked.lines.map (·.content) = [.blank] ∧ (blanked.run settings {} .beginning state).2 = .finished ∧
      ¬ ∃ halts last, script.PlaysOn settings {} .beginning state halts last .finished := by
  intro policy script blanked settings state
  have facts : script.accepted policy = true ∧ script.lines.map (·.keyword?) = [some .halt] ∧
      blanked.lines.map (·.content) = [.blank] ∧ (blanked.run settings {} .beginning state).2 = .finished ∧
      (script.run settings {} .beginning state).2 ≠ .finished ∧
      (script.run settings {} .beginning state).2 ≠ .broke := by
    decide +kernel
  obtain ⟨accepted, words, blank, finished, other, stops⟩ := facts
  refine ⟨accepted, words, blank, finished, ?_⟩
  rintro ⟨halts, last, plays⟩
  cases halts with
  | zero =>
    obtain ⟨ran, _⟩ := Script.playsOn_zero_iff.mp plays
    exact other (congrArg Prod.snd ran)
  | succ halts =>
    obtain ⟨between, ran, _⟩ := Script.playsOn_succ_iff.mp plays
    exact stops (congrArg Prod.snd ran)

end Narrative
