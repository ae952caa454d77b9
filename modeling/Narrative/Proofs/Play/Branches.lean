import Narrative.Proofs.Play.Resolution
import Narrative.Proofs.Play.Soundness
import Narrative.Proofs.Play.Targets
import Narrative.Proofs.Script.Headings

/-!
Switches that always have a branch. Three kinds of switches can be without a branch in some story state. Each has one
in every state exactly if it has a branch for all other states (`Directive.IsTotal`), because the blank state takes any
other branch away (`not_suits_blank`). Every other switch of an accepted script always goes on
(`total_iff_of_accepted`). A source switch that fails in every state is what the check reports
(`source_reported_iff`).
-/
namespace Narrative

/-- Whether a directive sends the run somewhere. -/
def Keyword.isSwitch (keyword : Keyword) : Bool := keyword == .jumpto || keyword.isAutoswitch || keyword.isSwitchjump

/-- In a story state every run goes on after a line, whatever came before. -/
def Line.GoesOn (script : Script) (ctx : Context) (line : Line) : Prop :=
  ∀ {σ : Type} [Generator σ] (settings : PlaySettings) (state : Playback σ),
    (state.step script settings ctx line).2 = none

/-- In a story state a line ends every run with a fault, and leaves all else as it was. -/
def Line.Fails (script : Script) (ctx : Context) (line : Line) : Prop :=
  ∃ fault, ∀ {σ : Type} [Generator σ] (settings : PlaySettings) (state : Playback σ),
    state.step script settings ctx line = (state, some (.fault fault))

namespace Directive

/-- A switch has a branch for all the story states that no other branch is for. -/
def IsTotal (labels : LabelTable) : Directive → Prop
  | sourceSwitch base => labels.contains (base ++ LabelTable.defaultSuffix) = true
  | switchJump names => ∃ name ∈ names, labelPersona? name = none
  | stringSwitchJump pairs => ∃ pair ∈ pairs, pair.1 = anyValue
  | _ => True

/-- A switch has a branch for the source, for a present persona or for the string of a story state. -/
def Suits (labels : LabelTable) (ctx : Context) : Directive → Prop
  | sourceSwitch base => ∃ source, ctx.source = some source ∧ labels.contains (base ++ source) = true
  | switchJump names =>
    ∃ name ∈ names, ∃ persona, labelPersona? name = some persona ∧ ctx.voices.contains persona = true
  | stringSwitchJump pairs => ∃ pair ∈ pairs, ctx.string = some pair.1
  | _ => False

def HasBranch (labels : LabelTable) (ctx : Context) (directive : Directive) : Prop :=
  directive.Suits labels ctx ∨ directive.IsTotal labels

theorem not_suits_blank (labels : LabelTable) (directive : Directive) : ¬ directive.Suits labels .blank := by
  cases directive with
  | sourceSwitch base =>
    rintro ⟨source, known, _⟩
    cases known
  | switchJump names =>
    rintro ⟨name, _, persona, _, present⟩
    rw [Context.blank, Selection.empty, Selection.contains_ofPred] at present
    cases present
  | stringSwitchJump pairs =>
    rintro ⟨pair, _, known⟩
    cases known
  | _ => exact id

/-- The blank story state is the worst one. -/
theorem isTotal_iff (labels : LabelTable) (directive : Directive) :
    directive.IsTotal labels ↔ ∀ ctx, directive.HasBranch labels ctx := by
  constructor
  · intro total ctx
    exact .inr total
  · intro branches
    exact (branches .blank).resolve_left (not_suits_blank labels directive)

end Directive

theorem isSome_suffixed?_iff {labels : LabelTable} {base : String} {ctx : Context} :
    (labels.suffixed? base ctx.source).isSome = true ↔ (Directive.sourceSwitch base).HasBranch labels ctx := by
  rw [LabelTable.suffixed?, List.findSome?_isSome_iff]
  cases source : ctx.source with
  | none => simp [LabelTable.isSome_line?, Directive.HasBranch, Directive.Suits, Directive.IsTotal, source]
  | some value => simp [LabelTable.isSome_line?, Directive.HasBranch, Directive.Suits, Directive.IsTotal, source]

theorem isSome_presentLabel?_iff {labels : LabelTable} {names : List String} {ctx : Context} :
    (presentLabel? ctx.voices names).isSome = true ↔ (Directive.switchJump names).HasBranch labels ctx := by
  rw [presentLabel?, Option.isSome_or, Bool.or_eq_true, List.find?_isSome, List.find?_isSome]
  simp only [Option.any_eq_true, Option.isNone_iff_eq_none]
  rfl

theorem isSome_pairedLabel?_iff {labels : LabelTable} {pairs : List (String × String)} {ctx : Context} :
    (pairedLabel? ctx.string pairs).isSome = true ↔ (Directive.stringSwitchJump pairs).HasBranch labels ctx := by
  have own : (ctx.string.bind fun s => pairs.find? (·.1 == s)).isSome = true ↔
      ∃ pair ∈ pairs, ctx.string = some pair.1 := by
    cases ctx.string with
    | none => simp
    | some value =>
      rw [Option.bind_some, List.find?_isSome]
      simp only [beq_iff_eq, Option.some.injEq]
      exact exists_congr fun pair => and_congr_right fun _ => eq_comm
  rw [pairedLabel?, Option.isSome_map, Option.isSome_or, Bool.or_eq_true, own, List.find?_isSome]
  simp only [beq_iff_eq]
  rfl

section
variable {script : Script} {ctx : Context} {line : Line} {directive : Directive}

/-- Without a branch, one of the three kinds of switches has a fault. -/
theorem route_of_not_hasBranch (line : Line) (none_left : ¬ directive.HasBranch script.labels ctx) :
    directive.arrival? ctx line.index = none ∧ directive.keyword.isSwitch = true ∧
      ∃ fault, directive.route script ctx line false = .error fault := by
  cases directive with
  | sourceSwitch base =>
    rw [← isSome_suffixed?_iff, Option.not_isSome_iff_eq_none] at none_left
    exact ⟨rfl, rfl, _, by rw [Directive.route, none_left]⟩
  | switchJump names =>
    rw [← isSome_presentLabel?_iff, Option.not_isSome_iff_eq_none] at none_left
    exact ⟨rfl, rfl, _, by rw [Directive.route, none_left]⟩
  | stringSwitchJump pairs =>
    rw [← isSome_pairedLabel?_iff, Option.not_isSome_iff_eq_none] at none_left
    exact ⟨rfl, rfl, _, by rw [Directive.route, none_left]⟩
  | _ => exact absurd (.inr trivial) none_left

/-- With a branch, a switch resolves to a label. -/
theorem exists_target_of_hasBranch (branches : directive.HasBranch script.labels ctx)
    (choice : directive.keyword ∈ Keyword.partialSwitches) (again : Bool) :
    ∃ name, directive.target? script.labels ctx again = some name := by
  rw [← Option.isSome_iff_exists]
  cases directive with
  | sourceSwitch base => rwa [Directive.target?, Option.isSome_map, isSome_suffixed?_iff]
  | switchJump names => exact isSome_presentLabel?_iff.mpr branches
  | stringSwitchJump pairs => exact isSome_pairedLabel?_iff.mpr branches
  | _ => simp [Keyword.partialSwitches, Directive.keyword] at choice

theorem route_of_hasBranch (written : line.directive? = some directive) (grounded : directive.Grounded script line)
    (branches : directive.HasBranch script.labels ctx) (again : Bool) :
    ∃ move, directive.route script ctx line again = .ok move := by
  obtain ⟨keyword, args, _, read⟩ := Line.directive?_eq_some_iff.mp written
  rcases route_of_grounded read grounded ctx again with ⟨move, goes, _⟩ | ⟨state, fails, choice⟩
  · exact ⟨move, goes⟩
  · rw [← Directive.keyword_of_read read] at choice
    obtain ⟨name, resolved⟩ := exists_target_of_hasBranch branches choice again
    rw [Directive.route_of_target resolved, Script.goTo] at fails
    split at fails
    · cases fails
    · cases fails

theorem calls_of_switch (switch : directive.keyword.isSwitch = true) {σ : Type} [Generator σ] (settings : PlaySettings)
    (chance : σ) : directive.calls settings chance = ([], chance) := by
  cases directive with
  | label _ | halt | pause _ _ | nowPlaying _ => cases switch
  | _ => rfl

/-- A switch that remembers nothing never passes the run on to the next line. -/
theorem route_ne_next (switch : directive.keyword.isSwitch = true) (forgets : directive.arrival? ctx line.index = none)
    (again : Bool) : directive.route script ctx line again ≠ .ok .next := by
  have jumps : ∀ name, script.goTo name ≠ .ok .next := by
    intro name
    rw [Script.goTo]
    split <;> simp
  cases directive with
  | label _ | halt | pause _ _ | nowPlaying _ => cases switch
  | firstSwitch _ | moodSwitch _ => cases forgets
  | bladeSwitch held former never => exact jumps _
  | jumpto target =>
    cases target with
    | label name => exact jumps name
    | line n =>
      rw [Directive.route]
      split <;> simp
  | sourceSwitch base =>
    rw [Directive.route]
    split <;> simp
  | switchJump names | numSwitchJump names | stringSwitchJump pairs =>
    rw [Directive.route]
    split
    · exact jumps _
    · simp

theorem route_ne_halt (written : line.directive? = some directive) (switch : directive.keyword.isSwitch = true)
    (again : Bool) : directive.route script ctx line again ≠ .ok .halt := by
  intro halts
  have goes : line.Goes script (directive.route script ctx line again) := goes_of_route written ctx again
  rw [halts] at goes
  cases goes with
  | halt same =>
    rw [Line.isHalt, written, beq_iff_eq, Option.some.injEq] at same
    rw [same] at switch
    cases switch

theorem not_fails_of_goesOn (on : line.GoesOn script ctx) : ¬ line.Fails script ctx := by
  rintro ⟨fault, fails⟩
  have passed := on {} (⟨{}, {}, {}⟩ : Playback Tape)
  rw [fails] at passed
  cases passed

section
variable (runs : line.runsIn ctx = true) (written : line.directive? = some directive)
  (switch : directive.keyword.isSwitch = true)
include runs written switch

theorem goesOn_of_hasBranch (grounded : directive.Grounded script line)
    (branches : directive.HasBranch script.labels ctx) : line.GoesOn script ctx := by
  intro σ _ settings state
  obtain ⟨move, goes⟩ := route_of_hasBranch written grounded branches
    ((directive.arrival? ctx line.index).any state.cursor.seen.contains)
  rw [Playback.step_eq, perform_of_directive runs written, calls_of_switch switch, goes]
  cases move with
  | next | jump target => rfl
  | halt => exact absurd goes (route_ne_halt written switch _)

section
variable (forgets : directive.arrival? ctx line.index = none)
include forgets

theorem jumpsTo_of_route {place : Nat} (goes : directive.route script ctx line false = .ok (.jump place)) :
    line.JumpsTo script ctx place := by
  intro σ _ settings state
  rw [Playback.step_eq, perform_of_directive runs written, forgets, calls_of_switch switch, Option.any_none, goes]
  rfl

theorem fails_of_route {fault : Fault} (faulty : directive.route script ctx line false = .error fault) :
    line.Fails script ctx := by
  refine ⟨fault, ?_⟩
  intro σ _ settings state
  rw [Playback.step_eq, perform_of_directive runs written, forgets, calls_of_switch switch, Option.any_none, faulty]
  rfl

/-- Where a switch that remembers nothing goes on, it jumps. -/
theorem jumpsTo_of_goesOn (on : line.GoesOn script ctx) : ∃ place, line.JumpsTo script ctx place := by
  cases goes : directive.route script ctx line false with
  | error fault => exact absurd (fails_of_route runs written switch forgets goes) (not_fails_of_goesOn on)
  | ok move =>
    cases move with
    | next => exact absurd goes (route_ne_next switch forgets false)
    | halt => exact absurd goes (route_ne_halt written switch false)
    | jump place => exact ⟨place, jumpsTo_of_route runs written switch forgets goes⟩

end
end

theorem fails_of_not_hasBranch (runs : line.runsIn ctx = true) (written : line.directive? = some directive)
    (none_left : ¬ directive.HasBranch script.labels ctx) : line.Fails script ctx := by
  obtain ⟨forgets, switch, fault, faulty⟩ := route_of_not_hasBranch line none_left
  exact fails_of_route runs written switch forgets faulty

end

theorem withPrefix_ne_nil_iff {labels : LabelTable} {base : String} :
    labels.withPrefix base ≠ [] ↔ ∃ ctx, (Directive.sourceSwitch base).HasBranch labels ctx := by
  rw [LabelTable.withPrefix_ne_nil_iff_exists]
  constructor
  · rintro ⟨label, bound, start⟩
    obtain ⟨ending, rfl⟩ := Directive.exists_append_of_begins start
    exact ⟨{ source := some ending }, .inl ⟨ending, rfl, bound⟩⟩
  · rintro ⟨ctx, ⟨source, _, bound⟩ | bound⟩
    · exact ⟨base ++ source, bound, Directive.begins_append base source⟩
    · exact ⟨base ++ LabelTable.defaultSuffix, bound, Directive.begins_append base _⟩

/-- A source switch is reported exactly if no story state has a branch. -/
theorem source_reported_iff {name source base : String} {line : Line} (member : line ∈ (Script.parse name source).lines)
    (written : line.directive? = some (.sourceSwitch base)) (policy : Policy) :
    (∃ finding ∈ (Script.parse name source).check policy, finding.line = line.index ∧
      finding.defect = .autoswitchNoSuffixedLabel) ↔
      ∀ ctx, ¬ (Directive.sourceSwitch base).HasBranch (Script.parse name source).labels ctx := by
  rw [exists_finding_iff member policy (P := (· = .autoswitchNoSuffixedLabel)), ← not_exists, ← withPrefix_ne_nil_iff,
    not_not]
  have own := Line.directiveIssues_of_directive written (Script.parse name source).labels
    (Script.parse name source).size
  rw [Line.soundDirectiveIssues] at own
  constructor
  · rintro ⟨issue, listed, told⟩
    have found := mem_directiveIssues listed (by rw [told]; decide)
    rw [own] at found
    split at found
    · rename_i without
      simpa using without
    · cases found
  · intro without
    rw [without] at own
    refine ⟨⟨.autoswitchNoSuffixedLabel, [base]⟩, ?_, rfl⟩
    simp [Script.issues, Line.issues, own]

theorem grounded_of_hasBranch {script : Script} {ctx : Context} {base : String}
    (branches : (Directive.sourceSwitch base).HasBranch script.labels ctx) (line : Line) :
    (Directive.sourceSwitch base).Grounded script line := by
  refine ⟨nofun, nofun, nofun, ?_⟩
  rintro _ ⟨⟩
  exact withPrefix_ne_nil_iff.mpr ⟨ctx, branches⟩

/-- An ungated switch of an accepted script goes on in every story state exactly if it is total, and fails wherever it
    does not go on. A source switch goes on in some state, and going on is a jump but for the switches that remember.
    Accepted or not, a source switch that the check reports fails wherever its gates let it run, and an ungated one is
    reported exactly if it fails in every story state. -/
theorem total_iff_of_accepted {name source : String} {line : Line} (member : line ∈ (Script.parse name source).lines) :
    let script := Script.parse name source
    (line.gates.isEmpty = true → ∀ policy : Policy, policy.KeepsErrors → script.accepted policy = true →
      ∀ keyword, line.keyword? = some keyword → keyword.isSwitch = true →
        ∃ directive, line.directive? = some directive ∧ directive.keyword = keyword ∧
          ((∀ ctx, line.GoesOn script ctx) ↔ directive.IsTotal script.labels) ∧
          (∀ ctx, line.GoesOn script ctx ∨ line.Fails script ctx) ∧
          (keyword ≠ .firstSwitch → keyword ≠ .moodSwitch →
            ∀ ctx, line.GoesOn script ctx → ∃ place, line.JumpsTo script ctx place) ∧
          (keyword = .sourceSwitch → ∃ ctx, line.GoesOn script ctx)) ∧
    ∀ base, line.directive? = some (.sourceSwitch base) → ∀ policy,
      let reported := ∃ finding ∈ script.check policy, finding.line = line.index ∧
        finding.defect = .autoswitchNoSuffixedLabel
      (reported → ∀ ctx, line.runsIn ctx = true → line.Fails script ctx) ∧
        (line.gates.isEmpty = true → (reported ↔ ∀ ctx, line.Fails script ctx)) := by
  intro script
  constructor
  · intro ungated policy keeps accepted keyword word switch
    obtain ⟨directive, written, rfl, grounded⟩ := directive_of_accepted keeps accepted member word
    have runs := runsIn_of_ungated ungated
    have on : ∀ ctx, directive.HasBranch script.labels ctx → line.GoesOn script ctx :=
      fun ctx branches => goesOn_of_hasBranch (runs ctx) written switch grounded branches
    have off : ∀ ctx, ¬ directive.HasBranch script.labels ctx → line.Fails script ctx :=
      fun ctx none_left => fails_of_not_hasBranch (runs ctx) written none_left
    refine ⟨directive, written, rfl, ?_, ?_, ?_, ?_⟩
    · rw [Directive.isTotal_iff]
      refine ⟨fun all ctx => ?_, fun branches ctx => on ctx (branches ctx)⟩
      by_contra none_left
      exact not_fails_of_goesOn (all ctx) (off ctx none_left)
    · intro ctx
      by_cases branches : directive.HasBranch script.labels ctx
      · exact .inl (on ctx branches)
      · exact .inr (off ctx branches)
    · intro first mood ctx on
      have forgets : directive.arrival? ctx line.index = none := by
        cases directive with
        | firstSwitch target => exact absurd rfl first
        | moodSwitch target => exact absurd rfl mood
        | _ => rfl
      exact jumpsTo_of_goesOn (runs ctx) written switch forgets on
    · intro word
      cases directive with
      | sourceSwitch base =>
        obtain ⟨ctx, branches⟩ := withPrefix_ne_nil_iff.mp (grounded.suffixed base rfl)
        exact ⟨ctx, on ctx branches⟩
      | _ => cases word
  · intro base written policy reported
    have told : reported ↔ _ := source_reported_iff member written policy
    refine ⟨fun found ctx runs => fails_of_not_hasBranch runs written (told.mp found ctx), fun ungated => ?_⟩
    rw [told]
    have runs := runsIn_of_ungated ungated
    refine forall_congr' fun ctx => ⟨fails_of_not_hasBranch (runs ctx) written, fun fails branches => ?_⟩
    have on : line.GoesOn script ctx :=
      goesOn_of_hasBranch (runs ctx) written rfl (grounded_of_hasBranch branches line) branches
    exact not_fails_of_goesOn on fails

/-- A source switch with a label for the night alone: it goes on at night, and not always. -/
theorem total_iff_of_night :
    let script := Script.parse "night" "sourceswitch to_\nHero: Never.\nlabel to_night\nHero: Night."
    ∃ line, script.line? 0 = some line ∧ (∃ ctx, line.GoesOn script ctx) ∧ (¬ ∀ ctx, line.GoesOn script ctx) ∧
      ¬ ∃ finding ∈ script.check {}, finding.line = line.index ∧ finding.defect = .autoswitchNoSuffixedLabel := by
  intro script
  have facts : script.accepted {} = true ∧ script.labels.contains ("to_" ++ LabelTable.defaultSuffix) = false ∧
      (script.line? 0).map (fun line => (line.keyword?, line.directive?, line.gates.isEmpty)) =
        some (some .sourceSwitch, some (.sourceSwitch "to_"), true) := by
    decide +kernel
  obtain ⟨accepted, unknown, found⟩ := facts
  obtain ⟨line, here, told⟩ := Option.map_eq_some_iff.mp found
  simp only [Prod.mk.injEq] at told
  obtain ⟨word, written, ungated⟩ := told
  have keeps : Policy.KeepsErrors {} := fun _ error => error
  obtain ⟨switches, sources⟩ := total_iff_of_accepted (List.mem_of_getElem? here)
  obtain ⟨directive, written', _, total, _, _, some_state⟩ := switches ungated {} keeps accepted .sourceSwitch word rfl
  obtain rfl := Option.some.inj (written.symm.trans written')
  obtain ⟨ctx, on⟩ := some_state rfl
  refine ⟨line, here, ⟨ctx, on⟩, ?_, ?_⟩
  · rw [total, Directive.IsTotal, unknown]
    nofun
  · rw [(sources "to_" written {}).2 ungated]
    intro fails
    exact not_fails_of_goesOn on (fails ctx)

end Narrative
