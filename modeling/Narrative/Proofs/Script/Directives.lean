import Narrative.Proofs.Script.Headings

/-!
What the check says of a line with a directive, the modifiers of the line aside. Arguments that cannot be read are
reported by one finding; of a directive that is read there is at most one (`length_soundDirectiveIssues_le`), and none
where the line defines a label, of which something is said afterwards. Each finding has the heading of the keyword
(`reported_once`).
-/
namespace Narrative

/-- Whether a defect is about modifiers. -/
def Defect.isOfModifiers (defect : Defect) : Bool := Heading.ofModifiers.contains defect.heading

/-- What a report says of the line at a place, the modifiers of the line aside. -/
def Report.besidesModifiers (report : Report) (place : Nat) : Report :=
  report.filter fun finding => finding.line == place && !finding.defect.isOfModifiers

/-- At the place of a line of a parsed script, only the issues of this line are reported. -/
theorem besidesModifiers_check {name source : String} {line : Line} (member : line ∈ (Script.parse name source).lines)
    (policy : Policy) : ((Script.parse name source).check policy).besidesModifiers line.index =
      (((Script.parse name source).issues line).filter (!·.defect.isOfModifiers)).map (·.finding line policy) := by
  have at_place : ((Script.parse name source).check policy).besidesModifiers line.index =
      (((Script.parse name source).check policy).filter (·.line == line.index)).filter (!·.defect.isOfModifiers) := by
    rw [List.filter_filter, Report.besidesModifiers]
    exact List.filter_congr fun finding _ => Bool.and_comm _ _
  rw [at_place, filter_check member policy, List.filter_map]
  rfl

namespace Line

/-- What is wrong with the directive of a line and with the label that it defines. -/
def ownIssues (labels : LabelTable) (size : Nat) (used : List String) (line : Line) : List Issue :=
  line.directiveIssues labels size ++ line.labelIssues labels used

theorem length_soundDirectiveIssues_le (labels : LabelTable) (size : Nat) (line : Line) (directive : Directive) :
    (soundDirectiveIssues labels size line directive).length ≤ 1 := by
  have references (defect : Defect) : (referenceIssues labels defect directive).length ≤ 1 := by
    simp only [referenceIssues]
    split <;> simp
  cases directive with
  | jumpto target =>
    cases target with
    | label _ => exact references _
    | line _ => simp only [soundDirectiveIssues]; split <;> simp
  | halt | sourceSwitch _ => simp only [soundDirectiveIssues]; split <;> simp
  | label _ | pause _ _ | nowPlaying _ => simp [soundDirectiveIssues]
  | _ => exact references _

section
variable {line : Line} {keyword : Keyword} {args : List String} (content : line.content = .directive keyword args)
include content

theorem ownIssues_of_error {fault : ArgumentFault} (faulty : Directive.read keyword args = .error fault)
    (labels : LabelTable) (size : Nat) (used : List String) :
    line.ownIssues labels size used = [argumentIssue keyword fault] := by
  have unwritten : line.directive? = none := by
    rw [directive?, content, Content.directive?, faulty]
    rfl
  rcases labelIssues_cases labels used line with silent | ⟨_, _, _, _, written⟩
  · simp [ownIssues, silent, directiveIssues, content, faulty]
  · rw [unwritten] at written
    cases written

theorem length_ownIssues_le (labels : LabelTable) (size : Nat) (used : List String) :
    (line.ownIssues labels size used).length ≤ 1 := by
  cases read : Directive.read keyword args with
  | error fault => simp [ownIssues_of_error content read]
  | ok directive =>
    have own := directiveIssues_of_directive (directive?_eq_some_iff.mpr ⟨keyword, args, content, read⟩) labels size
    rcases labelIssues_cases labels used line with silent | ⟨issue, name, about, _, written⟩
    · rw [ownIssues, silent, List.append_nil, own]
      exact length_soundDirectiveIssues_le labels size line directive
    · -- A label directive is silent itself.
      have quiet := directiveIssues_of_directive written labels size
      simp [ownIssues, about, quiet, soundDirectiveIssues]

theorem heading_of_ownIssues {labels : LabelTable} {size : Nat} {used : List String} {issue : Issue}
    (found : issue ∈ line.ownIssues labels size used) : issue.defect.heading = keyword.heading := by
  have word : line.keyword? = some keyword := by rw [keyword?, content]
  rcases List.mem_append.mp found with directive | defined
  · obtain ⟨_, same, _, family⟩ := isErrorOf_of_directiveIssues directive
    rw [word] at same
    cases same
    exact family
  · rw [heading_of_labelIssues defined]
    rcases labelIssues_cases labels used line with silent | ⟨_, _, _, _, written⟩
    · rw [silent] at defined
      cases defined
    · rw [keyword?_of_directive written] at word
      cases word
      rfl

/-- What is wrong with a line that has a keyword is wrong with its directive or its label, or with its modifiers. -/
theorem filter_issues (labels : LabelTable) (size : Nat) (used : List String) :
    (line.issues labels size used).filter (!·.defect.isOfModifiers) = line.ownIssues labels size used := by
  have unspoken : line.speakerIssues = [] := by rw [speakerIssues, content]
  have aside : line.blockIssues.filter (!·.defect.isOfModifiers) = [] := by
    rw [List.filter_eq_nil_iff]
    intro issue found
    simpa [Defect.isOfModifiers] using heading_of_blockIssues found
  have kept : (line.ownIssues labels size used).filter (!·.defect.isOfModifiers) = line.ownIssues labels size used := by
    rw [List.filter_eq_self]
    intro issue found
    have family : keyword.heading ∉ Heading.ofModifiers := by cases keyword <;> decide
    simpa [Defect.isOfModifiers, heading_of_ownIssues content found] using family
  rw [← kept, issues, ownIssues, unspoken]
  simp only [List.nil_append, List.filter_append, aside, List.append_nil]

end
end Line

/-- A line with a keyword is reported once if its arguments cannot be read, and at most once otherwise, whatever is
    reported of its modifiers and with what severity; and each time under the heading of the keyword. -/
theorem reported_once {name source : String} {line : Line} (member : line ∈ (Script.parse name source).lines)
    {keyword : Keyword} {args : List String} (content : line.content = .directive keyword args) (policy : Policy) :
    let found := ((Script.parse name source).check policy).besidesModifiers line.index
    ((∃ fault, Directive.read keyword args = .error fault) → found.length = 1) ∧ found.length ≤ 1 ∧
      ∀ finding ∈ found, finding.defect.heading = keyword.heading := by
  intro found
  have reported : found = (line.ownIssues (Script.parse name source).labels (Script.parse name source).size
      (Script.parse name source).used).map (·.finding line policy) := by
    rw [← Line.filter_issues content]
    exact besidesModifiers_check member policy
  rw [reported, List.length_map]
  refine ⟨?_, Line.length_ownIssues_le content _ _ _, ?_⟩
  · rintro ⟨fault, faulty⟩
    rw [Line.ownIssues_of_error content faulty]
    rfl
  · rw [List.forall_mem_map]
    intro issue listed
    exact Line.heading_of_ownIssues content listed

/-- A track without a name is reported once, whatever is wrong with the modifiers of its line. -/
theorem reported_once_of_silence :
    let script := Script.parse "silence" "Hero: Wait.\nnowplaying /// interrupt; hasblade; hasblade"
    (script.check {}).length = 3 ∧
      ∃ line ∈ script.lines, ∃ finding, (script.check {}).besidesModifiers line.index = [finding] ∧
        finding.defect.heading = .nowPlaying := by
  intro script
  have facts : (script.check {}).length = 3 ∧
      (script.line? 1).map Line.content = some (.directive .nowPlaying []) := by
    decide +kernel
  obtain ⟨three, found⟩ := facts
  obtain ⟨line, here, content⟩ := Option.map_eq_some_iff.mp found
  have member : line ∈ script.lines := List.mem_of_getElem? here
  obtain ⟨once, _, family⟩ := reported_once member content {}
  obtain ⟨finding, single⟩ := List.length_eq_one_iff.mp (once ⟨.missing, rfl⟩)
  exact ⟨three, line, member, finding, single, family finding (by rw [single]; exact List.mem_singleton_self finding)⟩

end Narrative
