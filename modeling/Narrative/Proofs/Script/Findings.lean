import Narrative.Proofs.Script.Lines
import Narrative.Script.Check

/-!
The findings of a check, line by line. They are what is wrong with the lines, one after the other (`mem_check_iff`), and
so stand in the order of the lines (`Report.pairwise_ofLines`). No two lines have the same place, and what is found at
a place is what is wrong with the line there (`filter_check`).
-/
namespace Narrative

/-- What is wrong with lines, one after the other. -/
def Report.ofLines (policy : Policy) (lines : List Line) (issues : Line → List Issue) : Report :=
  lines.flatMap fun line => (issues line).map (·.finding line policy)

namespace Report
variable {policy : Policy} {lines : List Line} {issues : Line → List Issue}

theorem mem_ofLines_iff {finding : Finding} : finding ∈ ofLines policy lines issues ↔
    ∃ line ∈ lines, ∃ issue ∈ issues line, issue.finding line policy = finding := by
  simp only [ofLines, List.mem_flatMap, List.mem_map]

/-- At a place stand the findings of the lines there. -/
theorem filter_ofLines (place : Nat) : (ofLines policy lines issues).filter (·.line == place) =
    ofLines policy (lines.filter (·.index == place)) issues := by
  induction lines with
  | nil => rfl
  | cons line rest ih =>
    have here : ((issues line).map (·.finding line policy)).filter (·.line == place) =
        if line.index == place then (issues line).map (·.finding line policy) else [] := by
      rw [List.filter_map]
      cases at_place : line.index == place <;> simp [Function.comp_def, Issue.finding, at_place]
    rw [ofLines] at ih
    rw [ofLines, List.flatMap_cons, List.filter_append, here, ih]
    cases at_place : line.index == place <;> simp [ofLines, at_place]

section
variable (ascending : lines.Pairwise fun line other => line.index < other.index)
include ascending

theorem filter_index_of_mem {line : Line} (member : line ∈ lines) : lines.filter (·.index == line.index) = [line] := by
  induction lines with
  | nil => cases member
  | cons first rest ih =>
    obtain ⟨before, later⟩ := List.pairwise_cons.mp ascending
    rcases List.mem_cons.mp member with rfl | behind
    · have silent : rest.filter (·.index == line.index) = [] :=
        List.filter_eq_nil_iff.mpr fun other among => by simpa using Nat.ne_of_gt (before other among)
      rw [List.filter_cons_of_pos (by simp), silent]
    · rw [List.filter_cons_of_neg (by simpa using Nat.ne_of_lt (before line behind)), ih later behind]

/-- The findings stand in the order of the lines. -/
theorem pairwise_ofLines : (ofLines policy lines issues).Pairwise fun finding later => finding.line ≤ later.line := by
  refine List.pairwise_flatMap.mpr ⟨fun line _ => ?_, ascending.imp fun before finding here later there => ?_⟩
  · refine List.pairwise_map.mpr (List.pairwise_of_forall fun _ _ => ?_)
    exact Nat.le_refl line.index
  · obtain ⟨issue, _, rfl⟩ := List.mem_map.mp here
    obtain ⟨issue', _, rfl⟩ := List.mem_map.mp there
    exact Nat.le_of_lt before

/-- At the place of a line stands what is wrong with it. -/
theorem filter_ofLines_of_mem {line : Line} (member : line ∈ lines) :
    (ofLines policy lines issues).filter (·.line == line.index) = (issues line).map (·.finding line policy) := by
  rw [filter_ofLines, filter_index_of_mem ascending member, ofLines, List.flatMap_singleton]

end
end Report

/-- The check reports what is wrong with each line. -/
theorem mem_check_iff {policy : Policy} {script : Script} {finding : Finding} :
    finding ∈ script.check policy ↔
      ∃ line ∈ script.lines, ∃ issue ∈ script.issues line, issue.finding line policy = finding :=
  Report.mem_ofLines_iff

/-- The check reports at the place of a line what is wrong with this line. -/
theorem filter_check {name source : String} {line : Line} (member : line ∈ (Script.parse name source).lines)
    (policy : Policy) : ((Script.parse name source).check policy).filter (·.line == line.index) =
      ((Script.parse name source).issues line).map (·.finding line policy) :=
  Report.filter_ofLines_of_mem (Script.pairwise_index name source) member

/-- What the check reports at a line is what is wrong with the line. -/
theorem exists_finding_iff {name source : String} {line : Line} (member : line ∈ (Script.parse name source).lines)
    (policy : Policy) {P : Defect → Prop} :
    (∃ finding ∈ (Script.parse name source).check policy, finding.line = line.index ∧ P finding.defect) ↔
      ∃ issue ∈ (Script.parse name source).issues line, P issue.defect := by
  constructor
  · rintro ⟨finding, reported, here, told⟩
    obtain ⟨other, among, issue, listed, rfl⟩ := mem_check_iff.mp reported
    have same : other = line := Script.eq_of_index among member here
    subst same
    exact ⟨issue, listed, told⟩
  · rintro ⟨issue, listed, told⟩
    exact ⟨issue.finding line policy, mem_check_iff.mpr ⟨line, member, issue, listed, rfl⟩, rfl, told⟩

end Narrative
