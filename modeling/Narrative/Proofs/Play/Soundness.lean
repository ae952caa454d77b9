import Narrative.Proofs.Play.Resolution
import Narrative.Proofs.Play.Visits
import Narrative.Proofs.Script.Acceptance
import Narrative.Proofs.Script.Arguments

/-!
Runs of accepted scripts. The check and the run look at directives independently; where the check finds
no error, the only fault that a directive can have is that a switch has no branch for the story state
(`route_of_grounded`), and every halt that is reached through its gates ends the run (`step_of_halt`).
-/
namespace Narrative

variable {σ : Type} [Generator σ]

/-- The switches that may have no branch for a state of the story. -/
def Keyword.partialSwitches : List Keyword := [.sourceSwitch, .switchJump, .stringSwitchJump]

private theorem goTo_of_contains {script : Script} {label : String} (defined : script.labels.contains label = true) :
    ∃ move, script.goTo label = .ok move := by
  obtain ⟨line, bound⟩ := LabelTable.contains_iff.mp defined
  exact ⟨.jump line, by rw [Script.goTo, bound]⟩

/-- A counter always has a place in a list of labels that is not empty. -/
theorem countedLabel?_of_ne_nil (number : Int) {labels : List String} (labelled : labels ≠ []) :
    ∃ label ∈ labels, countedLabel? number labels = some label := by
  have positive : 0 < labels.length := List.length_pos_iff.mpr labelled
  have inside : min number.toNat (labels.length - 1) < labels.length := by omega
  exact ⟨labels[min number.toNat (labels.length - 1)], List.getElem_mem inside,
    List.getElem?_eq_getElem inside⟩

/-- A grounded directive has a move, and a halt halts; only a switch on the source, the voices or the string
    can have no branch instead. -/
theorem route_of_grounded {script : Script} {line : Line} {keyword : Keyword} {args : List String}
    {directive : Directive} (sound : Directive.read keyword args = .ok directive)
    (grounded : directive.Grounded script line) (ctx : Context) (again : Bool) :
    (∃ move, directive.route script ctx line again = .ok move ∧ (keyword = .halt → move = .halt)) ∨
      ∃ state, directive.route script ctx line again = .error (.noSwitchBranch line.number keyword state) ∧
        keyword ∈ Keyword.partialSwitches := by
  have goes (label : String) (named : label ∈ directive.references) : ∃ move, script.goTo label = .ok move :=
    goTo_of_contains (grounded.defined label named)
  have word := Directive.keyword_of_read sound
  subst word
  cases directive with
  | label _ | pause _ _ | nowPlaying _ => exact .inl ⟨.next, rfl, by simp [Directive.keyword]⟩
  | halt => exact .inl ⟨.halt, by simp [Directive.route, grounded.gated rfl], fun _ => rfl⟩
  | jumpto target =>
    cases target with
    | label name =>
      obtain ⟨move, gone⟩ := goes name (by simp [Directive.references])
      exact .inl ⟨move, gone, by simp [Directive.keyword]⟩
    | line n =>
      obtain ⟨low, high⟩ := grounded.inRange n rfl
      exact .inl ⟨.jump (n.toNat - 1), by simp [Directive.route, low, high], by simp [Directive.keyword]⟩
  | firstSwitch target | moodSwitch target =>
    cases again with
    | false => exact .inl ⟨.next, rfl, by simp [Directive.keyword]⟩
    | true =>
      obtain ⟨move, gone⟩ := goes target (by simp [Directive.references])
      exact .inl ⟨move, gone, by simp [Directive.keyword]⟩
  | sourceSwitch base =>
    cases chosen : script.labels.suffixed? base ctx.source with
    | none => exact .inr ⟨.source ctx.source, by simp [Directive.route, chosen, Directive.keyword],
        by simp [Keyword.partialSwitches, Directive.keyword]⟩
    | some label => exact .inl ⟨.jump label.line, by simp [Directive.route, chosen], by simp [Directive.keyword]⟩
  | bladeSwitch held former never =>
    have named : bladeLabel held former never ctx.blade ∈ Directive.references (.bladeSwitch held former never) := by
      cases ctx.blade <;> simp [bladeLabel, Directive.references]
    obtain ⟨move, gone⟩ := goes _ named
    exact .inl ⟨move, gone, by simp [Directive.keyword]⟩
  | switchJump labels =>
    cases chosen : presentLabel? ctx.voices labels with
    | none => exact .inr ⟨.voices ctx.voices, by simp [Directive.route, chosen, Directive.keyword],
        by simp [Keyword.partialSwitches, Directive.keyword]⟩
    | some label =>
      obtain ⟨move, gone⟩ := goes label (mem_of_presentLabel? chosen)
      exact .inl ⟨move, by simp [Directive.route, chosen, gone], by simp [Directive.keyword]⟩
  | numSwitchJump labels =>
    obtain ⟨label, named, chosen⟩ := countedLabel?_of_ne_nil ctx.number (Directive.labels_ne_nil_of_read sound)
    obtain ⟨move, gone⟩ := goes label named
    exact .inl ⟨move, by simp [Directive.route, chosen, gone], by simp [Directive.keyword]⟩
  | stringSwitchJump pairs =>
    cases chosen : pairedLabel? ctx.string pairs with
    | none => exact .inr ⟨.string ctx.string, by simp [Directive.route, chosen, Directive.keyword],
        by simp [Keyword.partialSwitches, Directive.keyword]⟩
    | some label =>
      obtain ⟨move, gone⟩ := goes label (mem_of_pairedLabel? chosen)
      exact .inl ⟨move, by simp [Directive.route, chosen, gone], by simp [Directive.keyword]⟩

private theorem content_of_keyword? {line : Line} {keyword : Keyword} (word : line.keyword? = some keyword) :
    ∃ args, line.content = .directive keyword args := by
  unfold Line.keyword? at word
  split at word <;> cases word
  exact ⟨_, by assumption⟩

section
variable {policy : Policy} {script : Script} {settings : PlaySettings} {ctx : Context} {line : Line}

/-- A line of an accepted script has a move, unless it is a switch without a branch for the story state. -/
theorem move_of_accepted (keeps : policy.KeepsErrors) (accepted : script.accepted policy = true)
    (member : line ∈ script.lines) (seen : List Arrival) (chance : σ) {fault : Fault}
    (faulty : (line.perform script settings ctx seen chance).move = .error fault) :
    ∃ keyword state, line.keyword? = some keyword ∧ keyword ∈ Keyword.partialSwitches ∧
      fault = .noSwitchBranch line.number keyword state := by
  unfold Line.perform at faulty
  split at faulty
  · cases faulty
  · split at faulty
    · cases faulty
    · cases faulty
    · rename_i keyword args content
      obtain ⟨directive, sound, grounded⟩ := grounded_of_accepted keeps accepted member content
      -- Whatever is remembered of earlier arrivals, the fault comes from the route.
      have routed : ∃ again, directive.route script ctx line again = .error fault := by
        simp only [sound] at faulty
        split at faulty
        · exact ⟨_, faulty⟩
        · exact ⟨_, faulty⟩
      obtain ⟨again, route⟩ := routed
      rcases route_of_grounded sound grounded ctx again with ⟨move, moves, _⟩ | ⟨state, fails, word⟩
      · rw [moves] at route; cases route
      · rw [fails] at route
        cases route
        exact ⟨keyword, state, by simp [Line.keyword?, content], word, rfl⟩

/-- A halt in an accepted script is gated by a flag, and once its gates let it run it only halts. -/
theorem perform_of_halt (keeps : policy.KeepsErrors) (accepted : script.accepted policy = true)
    (member : line ∈ script.lines) (word : line.keyword? = some .halt) (runs : line.runsIn ctx = true)
    (settings : PlaySettings) (seen : List Arrival) (chance : σ) :
    line.hasFlagGate = true ∧ line.perform script settings ctx seen chance = ⟨[], seen, chance, .ok .halt⟩ := by
  obtain ⟨args, content⟩ := content_of_keyword? word
  obtain ⟨directive, sound, grounded⟩ := grounded_of_accepted keeps accepted member content
  have halts : directive = .halt := by
    have named := Directive.keyword_of_read sound
    cases directive <;> simp_all [Directive.keyword]
  subst halts
  have gated := grounded.gated rfl
  refine ⟨gated, ?_⟩
  simp [Line.perform, runs, content, sound, Directive.calls, Directive.arrival?, Directive.route, gated]

private theorem move_of_step {state last : Playback σ} {fault : Fault}
    (ends : state.step script settings ctx line = (last, some (.fault fault))) :
    (line.perform script settings ctx state.cursor.seen state.chance).move = .error fault := by
  simp only [Playback.step] at ends
  split at ends
  · cases ends
  · split at ends <;> simp_all

/-- A halt that its gates let run ends the run before the next line. -/
theorem step_of_halt (keeps : policy.KeepsErrors) (accepted : script.accepted policy = true)
    (member : line ∈ script.lines) (word : line.keyword? = some .halt) (runs : line.runsIn ctx = true)
    (state : Playback σ) :
    state.step script settings ctx line =
      ({ state with cursor := state.cursor.moveTo (state.cursor.position + 1) }, some .broke) := by
  obtain ⟨_, performed⟩ := perform_of_halt keeps accepted member word runs settings
    state.cursor.seen state.chance
  simp [Playback.step, performed, Presenter.receiveAll, Cursor.moveTo]

/-- How a run may end that has executed the lines of `visits`: never by a directive that cannot be read, that
    names a line outside the script or that names an unknown label; by a switch without a branch only where
    the last line is one of the partial switches; and by a halt wherever a halt was let run, which then was
    gated by a flag and the last line. -/
structure SoundEnding (ctx : Context) (visits : List (Playback σ × Line)) (ending : Option Ending) : Prop where
  wellFormed : ∀ number keyword, ending ≠ some (.fault (.malformedDirective number keyword))
  inRange : ∀ number target, ending ≠ some (.fault (.lineOutOfRange number target))
  defined : ∀ label, ending ≠ some (.fault (.unknownLabel label))
  branching : ∀ number keyword state, ending = some (.fault (.noSwitchBranch number keyword state)) →
    keyword ∈ Keyword.partialSwitches ∧
      ∃ visit, visits.getLast? = some visit ∧ visit.2.number = number ∧ visit.2.keyword? = some keyword
  halting : ∀ visit ∈ visits, visit.2.keyword? = some .halt → visit.2.runsIn ctx = true →
    visit.2.hasFlagGate = true ∧ visits.getLast? = some visit ∧ ending = some .broke

private theorem fault_of_advance (keeps : policy.KeepsErrors) (accepted : script.accepted policy = true)
    {allowed : Nat} {state : Playback σ} {fault : Fault}
    (faulty : (state.advance script settings ctx allowed).2 = some (.fault fault)) :
    ∃ visit, (state.visits script settings ctx allowed).getLast? = some visit ∧
      ∃ keyword branch, visit.2.keyword? = some keyword ∧ keyword ∈ Keyword.partialSwitches ∧
        fault = .noSwitchBranch visit.2.number keyword branch := by
  rcases Playback.visit_of_advance (Prod.ext rfl faulty) with finished | ⟨visit, final, ends⟩
  · cases finished
  · have here := Playback.line?_of_visit (List.mem_of_getLast? final)
    exact ⟨visit, final, move_of_accepted keeps accepted (List.mem_of_getElem? here) _ _ (move_of_step ends)⟩

/-- However many lines of an accepted script are executed from wherever, the ending is sound. -/
theorem advance_sound (keeps : policy.KeepsErrors) (accepted : script.accepted policy = true) (allowed : Nat)
    (state : Playback σ) :
    SoundEnding ctx (state.visits script settings ctx allowed) (state.advance script settings ctx allowed).2 where
  wellFormed number keyword faulty := by
    obtain ⟨_, _, _, _, _, _, same⟩ := fault_of_advance keeps accepted faulty
    cases same
  inRange number target faulty := by
    obtain ⟨_, _, _, _, _, _, same⟩ := fault_of_advance keeps accepted faulty
    cases same
  defined label faulty := by
    obtain ⟨_, _, _, _, _, _, same⟩ := fault_of_advance keeps accepted faulty
    cases same
  branching number keyword branch faulty := by
    obtain ⟨visit, final, _, _, word, partial_switch, same⟩ := fault_of_advance keeps accepted faulty
    cases same
    exact ⟨partial_switch, visit, final, rfl, word⟩
  halting visit member word runs := by
    have inside : visit.2 ∈ script.lines := List.mem_of_getElem? (Playback.line?_of_visit member)
    have gated := (perform_of_halt keeps accepted inside word runs settings [] visit.1.chance).1
    obtain ⟨ended, final⟩ :=
      Playback.advance_of_visit member (step_of_halt keeps accepted inside word runs visit.1)
    exact ⟨gated, final, by rw [ended]⟩

omit [Generator σ] in
private theorem cutOff_sound {visits : List (Playback σ × Line)} {ending : Option Ending}
    (sound : SoundEnding ctx visits ending) :
    SoundEnding ctx visits (some (ending.getD (Script.cutOff settings))) := by
  cases ending with
  | some ending => exact sound
  | none =>
    have halting : ∀ visit ∈ visits, visit.2.keyword? = some .halt → visit.2.runsIn ctx = true → False := by
      intro visit member word runs
      cases (sound.halting visit member word runs).2.2
    have spent : Script.cutOff settings = .endless ∨ ∃ limit, Script.cutOff settings = .fault (.stepLimit limit) := by
      unfold Script.cutOff
      split
      · exact .inl rfl
      · exact .inr ⟨_, rfl⟩
    constructor
    case halting => exact fun visit member word runs => (halting visit member word runs).elim
    all_goals rcases spent with same | ⟨limit, same⟩ <;> simp [same]

end

private theorem unknownLabel_of_entry {script : Script} {ctx : Context} {cursor : Cursor} {start : Start}
    {fault : Fault} (lost : script.entry ctx cursor start = .error fault) :
    ∃ label, fault = .unknownLabel label ∧
      (start = .label label ∨ ∃ base, start = .suffixed base ∧ label = base ++ LabelTable.defaultSuffix) := by
  cases start with
  | beginning => cases lost
  | resume => cases lost
  | label name =>
    simp only [Script.entry] at lost
    split at lost <;> cases lost
    exact ⟨name, rfl, .inl rfl⟩
  | suffixed base =>
    simp only [Script.entry] at lost
    split at lost <;> cases lost
    exact ⟨_, rfl, .inr ⟨base, rfl, rfl⟩⟩

/-- A script that the check accepts runs soundly in every story state, from every place and with any
    arrivals behind it, however many lines it executes. A run from a start ends soundly too, unless the start
    itself is a label, or a base with a source, that leads nowhere. -/
theorem run_sound_of_accepted (σ : Type) [Generator σ] {policy : Policy} (keeps : policy.KeepsErrors)
    {name source : String} (accepted : (Script.parse name source).accepted policy = true) (settings : PlaySettings)
    (ctx : Context) :
    (∀ allowed (state : Playback σ),
      SoundEnding ctx (Playback.visits (Script.parse name source) settings ctx allowed state)
        (Playback.advance (Script.parse name source) settings ctx allowed state).2) ∧
    ∀ start (state : Playback σ),
      ((∃ position, (Script.parse name source).entry ctx state.cursor start = .ok position) ∧
        SoundEnding ctx ((Script.parse name source).visits settings ctx start state)
          (some ((Script.parse name source).run settings ctx start state).2)) ∨
      ∃ label, (Script.parse name source).run settings ctx start state = (state, .fault (.unknownLabel label)) ∧
        (start = .label label ∨ ∃ base, start = .suffixed base ∧ label = base ++ LabelTable.defaultSuffix) := by
  refine ⟨fun allowed state => advance_sound keeps accepted allowed state, fun start state => ?_⟩
  cases entered : (Script.parse name source).entry ctx state.cursor start with
  | error fault =>
    obtain ⟨label, rfl, caller⟩ := unknownLabel_of_entry entered
    exact .inr ⟨label, by rw [Script.run, entered], caller⟩
  | ok position =>
    refine .inl ⟨⟨position, rfl⟩, ?_⟩
    rw [Script.run_of_entry entered, Script.visits, entered]
    exact cutOff_sound (advance_sound keeps accepted _ _)

/-- Behind a source switch that only has its default, a halt that the blade lets run. -/
theorem run_sound_with_blade :
    let script := Script.parse "loop"
      "label start\nsourceswitch to_\nHero: Wait.\nlabel to_default\nbreak /// hasblade\njumpto start"
    let state : Playback Tape := { chance := {} }
    Policy.KeepsErrors {} ∧ script.accepted {} = true ∧
      SoundEnding { blade := .held } (script.visits {} { blade := .held } .beginning state) (some .broke) := by
  intro script state
  have keeps : Policy.KeepsErrors {} := fun _ error => error
  have accepted : script.accepted {} = true := by decide +kernel
  have broke : (script.run {} { blade := .held } .beginning state).2 = .broke := by decide +kernel
  refine ⟨keeps, accepted, ?_⟩
  rcases (run_sound_of_accepted Tape keeps accepted {} { blade := .held }).2 .beginning state with
    ⟨_, sound⟩ | ⟨label, _, caller⟩
  · rwa [broke] at sound
  · simp at caller

end Narrative
