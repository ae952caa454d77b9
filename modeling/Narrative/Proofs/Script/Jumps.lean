import Narrative.Proofs.Script.Headings

/-!
What the check says of a jump. It is reported if its word is an integer without a line, or no integer and no label
(`jump_reported_iff`).
-/
namespace Narrative

theorem defect_of_jump {labels : LabelTable} {size : Nat} {line : Line} {target : JumpTarget} {issue : Issue}
    (found : issue ∈ Line.soundDirectiveIssues labels size line (.jumpto target)) :
    issue.defect = .jumptoUnknownLabel ∨ issue.defect = .jumptoIndexOutOfRange := by
  cases target with
  | label name => exact .inl (defect_of_referenceIssues found)
  | line n =>
    simp only [Line.soundDirectiveIssues] at found
    split at found
    · cases found
    · rw [List.mem_singleton.mp found]
      exact .inr rfl

/-- A word that is an integer has to be the number of a line, and any other one a label. -/
theorem grounded_jump_iff {script : Script} {line : Line} {word : String} :
    (Directive.jumpto (Directive.jumpTarget word)).Grounded script line ↔
      (Number.integer? word = none → script.labels.contains word = true) ∧
        ∀ n, Number.integer? word = some n → 1 ≤ n ∧ n ≤ script.size := by
  rw [Directive.grounded_iff, Directive.jumpTarget]
  cases Number.integer? word with
  | none => simp [Directive.references]
  | some n => simp [Directive.references]

section
variable {line : Line} {word : String} (content : line.content = .directive .jumpto [word])
include content

theorem directiveIssues_of_jump (labels : LabelTable) (size : Nat) : line.directiveIssues labels size =
    Line.soundDirectiveIssues labels size line (.jumpto (Directive.jumpTarget word)) := by
  rw [Line.directiveIssues, content]
  rfl

/-- A jump is reported exactly if its word is an integer without a line, or no integer and no label. -/
theorem jump_reported_iff {name source : String} (member : line ∈ (Script.parse name source).lines) (policy : Policy) :
    (∃ finding ∈ (Script.parse name source).check policy, finding.line = line.index ∧
      (finding.defect = .jumptoUnknownLabel ∨ finding.defect = .jumptoIndexOutOfRange)) ↔
      ¬ (Directive.jumpto (Directive.jumpTarget word)).Grounded (Script.parse name source) line := by
  refine (exists_finding_iff member policy
    (P := fun defect => defect = .jumptoUnknownLabel ∨ defect = .jumptoIndexOutOfRange)).trans ?_
  rw [← soundDirectiveIssues_eq_nil, ← directiveIssues_of_jump content]
  constructor
  · rintro ⟨issue, listed, told⟩ silent
    have found : issue ∈ line.directiveIssues (Script.parse name source).labels (Script.parse name source).size := by
      refine mem_directiveIssues listed ?_
      rcases told with unknown | outside
      · rw [unknown]
        decide
      · rw [outside]
        decide
    rw [silent] at found
    cases found
  · intro faulty
    obtain ⟨issue, found⟩ := List.exists_mem_of_ne_nil _ faulty
    have listed : issue ∈ (Script.parse name source).issues line := by simp [Script.issues, Line.issues, found]
    rw [directiveIssues_of_jump content] at found
    exact ⟨issue, listed, defect_of_jump found⟩

/-- Where a label has the spelling of the word, a jump is reported exactly if the word is an integer without a line. -/
theorem jump_reported_iff_of_known {name source : String} (member : line ∈ (Script.parse name source).lines)
    (policy : Policy) (known : (Script.parse name source).labels.contains word = true) :
    (∃ finding ∈ (Script.parse name source).check policy, finding.line = line.index ∧
      (finding.defect = .jumptoUnknownLabel ∨ finding.defect = .jumptoIndexOutOfRange)) ↔
      ∃ n, Number.integer? word = some n ∧ ¬ (1 ≤ n ∧ n ≤ (Script.parse name source).size) := by
  rw [jump_reported_iff content member policy, grounded_jump_iff]
  simp only [known, implies_true, true_and, not_forall, exists_prop]

end
end Narrative
