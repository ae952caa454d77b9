import Narrative.Proofs.Script.Acceptance
import Narrative.Proofs.Script.Bindings

/-!
Scripts with more lines behind. What a script binds and uses stays bound and used when lines follow it, and its lines
stay within its size, so these can only mend what is wrong with it (`Issue.Mends`): a defect of its lines may go away
or lose some of its details, if it is one that the rest of a script can mend, and no other one comes up
(`mends_issues`). So it is for a text that is continued after a line feed (`check_append`).
-/
namespace Narrative

/-- The defects of a line that other lines can mend. -/
def Defect.mendable : List Defect :=
  [.jumptoIndexOutOfRange, .jumptoUnknownLabel, .autoswitchUnknownLabel, .autoswitchNoSuffixedLabel,
    .switchjumpUnknownLabel, .labelUnreferenced]

namespace Issue

/-- Issues that are left of others when some of these are mended, wholly or in part. -/
structure Mends (olds issues : List Issue) : Prop where
  known : ∀ issue ∈ issues, ∃ old ∈ olds, old.defect = issue.defect ∧ issue.details.Sublist old.details
  kept : ∀ old ∈ olds, old.defect ∉ Defect.mendable → old ∈ issues

namespace Mends
variable {olds issues olds' issues' : List Issue}

theorem refl (issues : List Issue) : Mends issues issues :=
  ⟨fun issue found => ⟨issue, found, rfl, List.Sublist.refl _⟩, fun _ found _ => found⟩

theorem append (first : Mends olds issues) (second : Mends olds' issues') :
    Mends (olds ++ olds') (issues ++ issues') := by
  constructor
  · intro issue found
    rcases List.mem_append.mp found with left | right
    · obtain ⟨old, before, alike⟩ := first.known issue left
      exact ⟨old, List.mem_append_left _ before, alike⟩
    · obtain ⟨old, before, alike⟩ := second.known issue right
      exact ⟨old, List.mem_append_right _ before, alike⟩
  · intro old before stays
    rcases List.mem_append.mp before with left | right
    · exact List.mem_append_left _ (first.kept old left stays)
    · exact List.mem_append_right _ (second.kept old right stays)

/-- A mendable issue may go away, and does not come up. -/
theorem ite {issue : Issue} {p q : Prop} [Decidable p] [Decidable q] (mendable : issue.defect ∈ Defect.mendable)
    (improves : p → q) : Mends (if p then [] else [issue]) (if q then [] else [issue]) := by
  constructor
  · intro other found
    split at found
    · cases found
    · rename_i bad
      obtain rfl := List.mem_singleton.mp found
      rw [if_neg fun good => bad (improves good)]
      exact ⟨other, found, rfl, List.Sublist.refl _⟩
  · intro old before stays
    split at before
    · cases before
    · rw [List.mem_singleton.mp before] at stays
      exact absurd mendable stays

end Mends
end Issue

/-- Whether repetitions are left out before or after a test makes no difference. -/
theorem distinctFrom_filter {α : Type} [DecidableEq α] (p : α → Bool) {seen seen' : List α} (xs : List α)
    (same : ∀ x, p x = true → (x ∈ seen ↔ x ∈ seen')) :
    distinctFrom seen (xs.filter p) = (distinctFrom seen' xs).filter p := by
  induction xs generalizing seen seen' with
  | nil => rfl
  | cons x rest ih =>
    by_cases passes : p x = true
    · rw [List.filter_cons_of_pos passes, distinctFrom, distinctFrom]
      by_cases known : x ∈ seen
      · rw [if_pos known, if_pos ((same x passes).mp known), ih same]
      · rw [if_neg known, if_neg (fun known' => known ((same x passes).mpr known')), List.filter_cons_of_pos passes]
        congr 1
        refine ih fun y passes' => ?_
        rw [List.mem_cons, List.mem_cons, same y passes']
    · rw [List.filter_cons_of_neg passes, distinctFrom]
      by_cases known : x ∈ seen'
      · rw [if_pos known, ih same]
      · rw [if_neg known, List.filter_cons_of_neg passes]
        refine ih fun y passes' => (same y passes').trans ?_
        have other : y ≠ x := by
          rintro rfl
          exact passes passes'
        simp [other]

section
variable {labels longer : LabelTable} (bound : ∀ label, labels.contains label = true → longer.contains label = true)
include bound

/-- The more labels are bound, the fewer are missing. -/
theorem missingLabels_sublist (directive : Directive) :
    (Line.missingLabels longer directive).Sublist (Line.missingLabels labels directive) := by
  unfold Line.missingLabels
  rw [distinctFrom_filter _ _ fun _ _ => Iff.rfl, distinctFrom_filter _ _ fun _ _ => Iff.rfl]
  refine List.monotone_filter_right _ fun label missing => ?_
  rw [Bool.not_eq_true'] at missing ⊢
  by_contra known
  rw [bound label (by simpa using known)] at missing
  cases missing

theorem mends_referenceIssues {defect : Defect} (mendable : defect ∈ Defect.mendable) (directive : Directive) :
    Issue.Mends (Line.referenceIssues labels defect directive) (Line.referenceIssues longer defect directive) := by
  have fewer := missingLabels_sublist bound directive
  constructor
  · intro issue found
    unfold Line.referenceIssues at found ⊢
    dsimp only at found ⊢
    split at found
    · cases found
    · rename_i missing
      obtain rfl := List.mem_singleton.mp found
      refine ⟨⟨defect, Line.missingLabels labels directive⟩, ?_, rfl, fewer⟩
      rw [if_neg, List.mem_singleton]
      intro none_missing
      rw [List.isEmpty_iff] at none_missing missing
      exact missing (List.sublist_nil.mp (none_missing ▸ fewer))
  · intro old before stays
    rw [defect_of_referenceIssues before] at stays
    exact absurd mendable stays

theorem withPrefix_eq_nil {base : String} (none_left : longer.withPrefix base = []) : labels.withPrefix base = [] := by
  by_contra some_label
  obtain ⟨label, known, start⟩ := LabelTable.withPrefix_ne_nil_iff_exists.mp some_label
  exact LabelTable.withPrefix_ne_nil_iff_exists.mpr ⟨label, bound label known, start⟩ none_left

theorem mends_directiveIssues {size more : Nat} (within : size ≤ more) (line : Line) :
    Issue.Mends (line.directiveIssues labels size) (line.directiveIssues longer more) := by
  unfold Line.directiveIssues
  split
  · split
    · rename_i directive _
      cases directive with
      | jumpto target =>
        cases target with
        | label name => exact mends_referenceIssues bound (by decide) _
        | line n =>
          refine Issue.Mends.ite (List.mem_cons_self ..) fun inside => ?_
          simp only [Bool.and_eq_true, decide_eq_true_eq] at inside ⊢
          exact ⟨inside.1, by omega⟩
      | sourceSwitch base =>
        have mends : Issue.Mends
            (if ¬ (labels.withPrefix base).isEmpty = true then [] else [⟨.autoswitchNoSuffixedLabel, [base]⟩])
            (if ¬ (longer.withPrefix base).isEmpty = true then [] else [⟨.autoswitchNoSuffixedLabel, [base]⟩]) := by
          refine Issue.Mends.ite (show Defect.autoswitchNoSuffixedLabel ∈ Defect.mendable by decide) ?_
          intro some_label none_left
          refine some_label ?_
          rw [List.isEmpty_iff] at none_left ⊢
          exact withPrefix_eq_nil bound none_left
        rwa [ite_not, ite_not] at mends
      | firstSwitch _ | moodSwitch _ | bladeSwitch _ _ _ => exact mends_referenceIssues bound (by decide) _
      | switchJump _ | numSwitchJump _ | stringSwitchJump _ => exact mends_referenceIssues bound (by decide) _
      | label _ | halt | pause _ _ | nowPlaying _ => exact .refl _
    · exact .refl _
  · exact .refl _

end

section
variable {script longer : Script} (prefixed : script.lines <+: longer.lines)
include prefixed

theorem line?_of_prefix {label : String} {place : Nat} (bound : script.labels.line? label = some place) :
    longer.labels.line? label = some place := by
  rw [Script.labels, LabelTable.line?_eq_find?] at bound ⊢
  obtain ⟨line, found, rfl⟩ := Option.map_eq_some_iff.mp bound
  rw [prefixed.find?_eq_some found, Option.map_some]

theorem contains_of_prefix {label : String} (bound : script.labels.contains label = true) :
    longer.labels.contains label = true := by
  obtain ⟨place, here⟩ := LabelTable.contains_iff.mp bound
  exact LabelTable.contains_iff.mpr ⟨place, line?_of_prefix prefixed here⟩

theorem used_of_prefix {label : String} (used : label ∈ script.used) : label ∈ longer.used := by
  obtain ⟨line, member, directive, written, uses⟩ := Script.mem_used_iff.mp used
  refine Script.mem_used_iff.mpr ⟨line, prefixed.subset member, directive, written, ?_⟩
  rw [Directive.mem_uses_iff] at uses ⊢
  exact uses.imp_right fun ⟨base, same, bound, start⟩ => ⟨base, same, contains_of_prefix prefixed bound, start⟩

theorem mends_labelIssues {line : Line} (member : line ∈ script.lines) :
    Issue.Mends (line.labelIssues script.labels script.used) (line.labelIssues longer.labels longer.used) := by
  unfold Line.labelIssues
  split
  · exact .refl _
  · rename_i label defines
    obtain ⟨place, bound⟩ : ∃ place, script.labels.line? label = some place :=
      LabelTable.exists_line?_of_definition member defines
    rw [bound, line?_of_prefix prefixed bound]
    split
    · exact .refl _
    · refine Issue.Mends.ite (show Defect.labelUnreferenced ∈ Defect.mendable by decide) fun used => ?_
      rw [List.contains_iff_mem] at used ⊢
      exact used_of_prefix prefixed used

/-- More lines mend what is wrong with a line or leave it as it is. -/
theorem mends_issues {line : Line} (member : line ∈ script.lines) :
    Issue.Mends (script.issues line) (longer.issues line) := by
  have bound : ∀ label, script.labels.contains label = true → longer.labels.contains label = true :=
    fun _ => contains_of_prefix prefixed
  exact (((Issue.Mends.refl _).append (mends_directiveIssues bound prefixed.length_le line)).append (.refl _)).append
    (mends_labelIssues prefixed member)

end

/-- A text that goes on after a line feed, or a text after nothing at all: whatever the check reports on a line of the
    first part it reports of that part alone too, at the same line, for the same defect and with no fewer details. All
    that it reports of the first part it reports of the whole, but for what other lines can mend. -/
theorem check_append {first : String} (ends : first = "" ∨ first.toList.getLast? = some '\n') (name second : String)
    (policy : Policy) :
    let script := Script.parse name first
    let whole := Script.parse name (first ++ second)
    (∀ finding ∈ whole.check policy, finding.line < script.size →
      ∃ details, { finding with details } ∈ script.check policy ∧ finding.details.Sublist details) ∧
    ∀ finding ∈ script.check policy, finding.defect ∉ Defect.mendable → finding ∈ whole.check policy := by
  intro script whole
  have prefixed : script.lines <+: whole.lines := ⟨_, (Script.lines_append name first second ends).symm⟩
  constructor
  · intro finding reported inside
    obtain ⟨line, member, issue, found, rfl⟩ := mem_check_iff.mp reported
    have here : whole.lines[line.index]? = some line := (Script.placed_of_parse _ _).line?_of_mem member
    have there : whole.lines[line.index]? = some script.lines[line.index] :=
      List.prefix_iff_getElem?.mp prefixed line.index inside
    have own : line ∈ script.lines := by
      rw [Option.some.inj (here.symm.trans there)]
      exact List.getElem_mem inside
    obtain ⟨old, before, same, fewer⟩ := (mends_issues prefixed own).known issue found
    refine ⟨old.details, mem_check_iff.mpr ⟨line, own, old, before, ?_⟩, fewer⟩
    rw [Issue.finding, Issue.finding, same]
  · intro finding reported stays
    obtain ⟨line, member, issue, found, rfl⟩ := mem_check_iff.mp reported
    exact mem_check_iff.mpr ⟨line, prefixed.subset member, issue, (mends_issues prefixed member).kept issue found stays,
      rfl⟩

/-- A draft whose jump and label are mended by what follows, its switch in part, and its pause not at all. -/
theorem check_append_of_draft :
    let draft := "jumpto 6\nswitchjump near end\nlabel start\npause long\n"
    let script := Script.parse "draft" draft
    let whole := Script.parse "draft" (draft ++ "label near\njumpto start")
    draft.toList.getLast? = some '\n' ∧ (script.check {}).length = 4 ∧ (whole.check {}).length = 2 ∧
      (∃ finding ∈ whole.check {}, finding.line = 3 ∧ finding.defect = .pauseNotInteger) ∧
      ∃ finding ∈ script.check {}, finding.line = 1 ∧ finding.defect = .switchjumpUnknownLabel ∧
        ["end"].Sublist finding.details := by
  intro draft script whole
  have facts : draft.toList.getLast? = some '\n' ∧ script.size = 4 ∧ (script.check {}).length = 4 ∧
      (script.check {})[3]?.map (fun finding => (finding.line, finding.defect)) = some (3, .pauseNotInteger) ∧
      (whole.check {}).length = 2 ∧ (whole.check {})[0]?.map (fun finding =>
        (finding.line, finding.defect, finding.details)) = some (1, .switchjumpUnknownLabel, ["end"]) := by
    decide +kernel
  obtain ⟨feed, size, four, pause, two, switch⟩ := facts
  obtain ⟨known, kept⟩ := check_append (.inr feed) "draft" "label near\njumpto start" {}
  obtain ⟨stays, there, told⟩ := Option.map_eq_some_iff.mp pause
  obtain ⟨finding, here, tells⟩ := Option.map_eq_some_iff.mp switch
  simp only [Prod.mk.injEq] at told tells
  have inside : finding.line < script.size := by
    rw [tells.1, size]
    decide
  obtain ⟨details, before, fewer⟩ := known finding (List.mem_of_getElem? here) inside
  rw [tells.2.2] at fewer
  refine ⟨feed, four, two, ⟨stays, kept stays (List.mem_of_getElem? there) ?_, told⟩, ?_⟩
  · rw [told.2]
    decide
  · exact ⟨_, before, tells.1, tells.2.1, fewer⟩

end Narrative
