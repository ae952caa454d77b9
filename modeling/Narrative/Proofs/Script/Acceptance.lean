import Mathlib.Tactic.MkIffOfInductiveProp
import Narrative.Proofs.Script.Arguments
import Narrative.Proofs.Script.Findings

/-!
What acceptance says about the lines of a script. Where a policy keeps the errors that are errors by
default, an accepted script has no such defect (`defaultSeverity_of_accepted`). So the arguments of its
directives are sound, and each directive has what it needs to be carried out (`grounded_of_accepted`).
-/
namespace Narrative

/-- What the check establishes of a directive with sound arguments: the labels that it spells out exist,
    a line that it names exists, a halt is gated by a flag, and a source switch has a label to go to. -/
@[mk_iff] structure Directive.Grounded (script : Script) (line : Line) (directive : Directive) : Prop where
  defined : ∀ label ∈ directive.references, script.labels.contains label = true
  inRange : ∀ n, directive = .jumpto (.line n) → 1 ≤ n ∧ n ≤ script.size
  gated : directive = .halt → line.hasFlagGate = true
  suffixed : ∀ base, directive = .sourceSwitch base → script.labels.withPrefix base ≠ []

private theorem referenceIssues_eq_nil (labels : LabelTable) (defect : Defect) (directive : Directive) :
    Line.referenceIssues labels defect directive = [] ↔
      ∀ label ∈ directive.references, labels.contains label = true := by
  simp [Line.referenceIssues, Line.missingLabels, distinctFrom_eq_nil]

/-- The check is silent about a directive exactly where the directive is grounded. -/
theorem soundDirectiveIssues_eq_nil (script : Script) (line : Line) (directive : Directive) :
    Line.soundDirectiveIssues script.labels script.size line directive = [] ↔ directive.Grounded script line := by
  rw [Directive.grounded_iff]
  cases directive with
  | jumpto target =>
    cases target with
    | label name => simp [Line.soundDirectiveIssues, referenceIssues_eq_nil]
    | line n => simp [Line.soundDirectiveIssues, Directive.references]
  | halt => simp [Line.soundDirectiveIssues, Directive.references]
  | sourceSwitch base => simp [Line.soundDirectiveIssues, Directive.references]
  | label _ | pause _ _ | nowPlaying _ => simp [Line.soundDirectiveIssues, Directive.references]
  | _ => simp [Line.soundDirectiveIssues, referenceIssues_eq_nil]

/-- The heading of what can be wrong with the directives of a keyword. -/
def Keyword.heading : Keyword → Heading
  | .label => .label
  | .jumpto => .jumpto
  | .halt => .halt
  | .pause => .pause
  | .firstSwitch | .moodSwitch | .sourceSwitch | .bladeSwitch => .autoswitch
  | .switchJump | .numSwitchJump | .stringSwitchJump => .switchjump
  | .nowPlaying => .nowPlaying

/-- Whether a defect is an error by default, under the heading of a keyword. -/
def Defect.IsErrorOf (keyword : Keyword) (defect : Defect) : Prop :=
  defect.defaultSeverity = .error ∧ defect.heading = keyword.heading

/-- A fault that arguments of a keyword can have is never taken for a defect of another family. -/
theorem isErrorOf_of_argumentIssue {keyword : Keyword} {fault : ArgumentFault} (own : fault.IsOf keyword) :
    (Line.argumentIssue keyword fault).defect.IsErrorOf keyword := by
  cases fault with
  | missing => rcases own with rfl | rfl | rfl | rfl <;> exact ⟨rfl, rfl⟩
  | tooMany count => rcases own with rfl | rfl | rfl <;> exact ⟨rfl, rfl⟩
  | missingPrefix label => rcases own with rfl | rfl <;> exact ⟨rfl, rfl⟩
  | wrongCount count =>
    cases keyword with
    | firstSwitch | moodSwitch | sourceSwitch | bladeSwitch => exact ⟨rfl, rfl⟩
    | _ => cases own
  | noLabels =>
    cases keyword with
    | switchJump | numSwitchJump | stringSwitchJump => exact ⟨rfl, rfl⟩
    | _ => cases own
  | _ =>
    obtain rfl := own
    exact ⟨rfl, rfl⟩

theorem defect_of_referenceIssues {labels : LabelTable} {defect : Defect} {directive : Directive} {issue : Issue}
    (found : issue ∈ Line.referenceIssues labels defect directive) : issue.defect = defect := by
  simp only [Line.referenceIssues] at found
  split at found <;> simp_all

theorem isErrorOf_of_soundDirectiveIssues {labels : LabelTable} {size : Nat} {line : Line} {directive : Directive}
    {issue : Issue} (found : issue ∈ Line.soundDirectiveIssues labels size line directive) :
    issue.defect.IsErrorOf directive.keyword := by
  cases directive with
  | jumpto target =>
    cases target with
    | label name =>
      rw [defect_of_referenceIssues found]
      exact ⟨rfl, rfl⟩
    | line n => simp only [Line.soundDirectiveIssues] at found; split at found <;> simp_all; exact ⟨rfl, rfl⟩
  | halt | sourceSwitch _ =>
    simp only [Line.soundDirectiveIssues] at found; split at found <;> simp_all; exact ⟨rfl, rfl⟩
  | label _ | pause _ _ | nowPlaying _ => simp [Line.soundDirectiveIssues] at found
  | _ =>
    rw [defect_of_referenceIssues found]
    exact ⟨rfl, rfl⟩

/-- Whatever is wrong with a directive is an error by default, under the heading of its keyword. -/
theorem isErrorOf_of_directiveIssues {labels : LabelTable} {size : Nat} {line : Line} {issue : Issue}
    (found : issue ∈ line.directiveIssues labels size) :
    ∃ keyword, line.keyword? = some keyword ∧ issue.defect.IsErrorOf keyword := by
  unfold Line.directiveIssues at found
  split at found
  · rename_i keyword args content
    refine ⟨keyword, by rw [Line.keyword?, content], ?_⟩
    split at found
    · rename_i directive read
      exact Directive.keyword_of_read read ▸ isErrorOf_of_soundDirectiveIssues found
    · rename_i fault read
      rw [List.mem_singleton.mp found]
      exact isErrorOf_of_argumentIssue (Directive.isOf_of_read read)
  · simp at found

/-- An accepted script has no defect that its policy takes for an error. -/
theorem severityOf_of_accepted {policy : Policy} {script : Script} (accepted : script.accepted policy = true)
    {line : Line} (member : line ∈ script.lines) {issue : Issue} (found : issue ∈ script.issues line) :
    policy.severityOf issue.defect = .note := by
  have reported : issue.finding line policy ∈ script.check policy :=
    mem_check_iff.mpr ⟨line, member, issue, found, rfl⟩
  have clean : ∀ finding ∈ script.check policy, finding.isError = false := by
    simpa [Script.accepted, Report.hasErrors] using accepted
  have lenient := clean _ reported
  cases severity : policy.severityOf issue.defect with
  | note => rfl
  | error => simp [Finding.isError, Issue.finding, severity] at lenient

/-- An accepted script has no defect that is an error by default. -/
theorem defaultSeverity_of_accepted {policy : Policy} {script : Script} (keeps : policy.KeepsErrors)
    (accepted : script.accepted policy = true) {line : Line} (member : line ∈ script.lines) {issue : Issue}
    (found : issue ∈ script.issues line) : issue.defect.defaultSeverity = .note := by
  have noted := severityOf_of_accepted accepted member found
  cases severity : issue.defect.defaultSeverity with
  | note => rfl
  | error =>
    rw [keeps _ severity] at noted
    cases noted

/-- In an accepted script every directive has sound arguments and is grounded. -/
theorem grounded_of_accepted {policy : Policy} {script : Script} (keeps : policy.KeepsErrors)
    (accepted : script.accepted policy = true) {line : Line} (member : line ∈ script.lines) {keyword : Keyword}
    {args : List String} (content : line.content = .directive keyword args) :
    ∃ directive, Directive.read keyword args = .ok directive ∧ directive.Grounded script line := by
  have silent : line.directiveIssues script.labels script.size = [] := by
    rw [List.eq_nil_iff_forall_not_mem]
    intro issue found
    have listed : issue ∈ script.issues line := by simp [Script.issues, Line.issues, found]
    have noted := defaultSeverity_of_accepted keeps accepted member listed
    obtain ⟨_, _, error, _⟩ := isErrorOf_of_directiveIssues found
    rw [error] at noted
    cases noted
  simp only [Line.directiveIssues, content] at silent
  cases read : Directive.read keyword args with
  | error fault => simp [read] at silent
  | ok directive =>
    simp only [read] at silent
    exact ⟨directive, rfl, (soundDirectiveIssues_eq_nil script line directive).mp silent⟩

/-- In an accepted script every line with a keyword has a directive, which can be carried out. -/
theorem directive_of_accepted {policy : Policy} {script : Script} (keeps : policy.KeepsErrors)
    (accepted : script.accepted policy = true) {line : Line} (member : line ∈ script.lines) {keyword : Keyword}
    (word : line.keyword? = some keyword) :
    ∃ directive, line.directive? = some directive ∧ directive.keyword = keyword ∧ directive.Grounded script line := by
  unfold Line.keyword? at word
  split at word
  · rename_i written args content
    obtain ⟨directive, read, grounded⟩ := grounded_of_accepted keeps accepted member content
    refine ⟨directive, Line.directive?_eq_some_iff.mpr ⟨written, args, content, read⟩, ?_, grounded⟩
    exact (Directive.keyword_of_read read).trans (Option.some.inj word)
  · cases word

end Narrative
