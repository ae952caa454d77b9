import Narrative.Proofs.Script.Acceptance

/-!
Where the defects of a line come from. What is wrong with its modifiers has a heading of modifiers
(`heading_of_blockIssues`), what is wrong with its speaker or its label has a defect of its own, and so a defect under
any other heading is one of the directive (`mem_directiveIssues`). A defect of the directive is an error by default,
and so a label that nothing refers to is one of the label (`mem_labelIssues`).
-/
namespace Narrative

/-- The headings of what can be wrong with modifiers. -/
def Heading.ofModifiers : List Heading := [.modifier, .interrupt, .checkVoice, .conflict]

theorem heading_of_conflict {keyword : Option Keyword} {speaker : Option Persona} {ms : List Modifier} {issue : Issue}
    (found : issue ∈ Conflict.issues keyword speaker ms) : issue.defect.heading = .conflict := by
  rw [Conflict.issues, List.mem_append, List.mem_append] at found
  rcases found with (flag | context) | voice
  · rcases List.mem_append.mp flag with both | repeated
    · obtain ⟨_, _, rfl⟩ := List.mem_map.mp both
      rfl
    · cases keyword with
      | none => cases repeated
      | some k =>
        obtain ⟨_, _, rfl⟩ := List.mem_map.mp repeated
        rfl
  · rcases List.mem_append.mp context with kinds | repeated
    · obtain ⟨kind, _, inKind⟩ := List.mem_flatMap.mp kinds
      rcases List.mem_append.mp inKind with both | several
      · obtain ⟨_, _, rfl⟩ := List.mem_map.mp both
        rfl
      · split at several
        · rw [List.mem_singleton.mp several]
          rfl
        · cases several
    · cases keyword with
      | none => cases repeated
      | some k =>
        obtain ⟨_, _, rfl⟩ := List.mem_map.mp repeated
        rfl
  · rcases List.mem_append.mp voice with both | own
    · split at both
      · cases both
      · rw [List.mem_singleton.mp both]
        rfl
    · cases speaker with
      | none => cases own
      | some p =>
        simp only at own
        split at own
        · rw [List.mem_singleton.mp own]
          rfl
        · cases own

theorem heading_of_blockIssues {line : Line} {issue : Issue} (found : issue ∈ line.blockIssues) :
    issue.defect.heading ∈ Heading.ofModifiers := by
  unfold Line.blockIssues at found
  split at found
  · cases found
  · rw [List.mem_singleton.mp found]
    decide
  · rw [List.mem_singleton.mp found]
    exact List.mem_cons_self ..
  · split at found
    · rw [List.mem_singleton.mp found]
      exact List.mem_cons_self ..
    · rcases List.mem_append.mp found with entry | modifier
      · obtain ⟨_, _, faulty⟩ := List.mem_filterMap.mp entry
        split at faulty
        · cases faulty
        · rename_i fault _
          cases faulty
          cases fault <;> simp [Line.entryIssue, Defect.heading, Defect.row, Heading.ofModifiers]
      · simp only [Line.modifierIssues, List.mem_append] at modifier
        rcases modifier with ((again | interrupt) | voice) | conflict
        · obtain ⟨_, _, rfl⟩ := List.mem_map.mp again
          exact List.mem_cons_self ..
        · split at interrupt
          · rw [List.mem_singleton.mp interrupt]
            decide
          · cases interrupt
        · split at voice
          · rw [List.mem_singleton.mp voice]
            simp [Defect.heading, Defect.row, Heading.ofModifiers]
          · cases voice
        · rw [heading_of_conflict conflict]
          decide

theorem defect_of_speakerIssues {line : Line} {issue : Issue} (found : issue ∈ line.speakerIssues) :
    issue.defect = .unknownSpeaker := by
  unfold Line.speakerIssues at found
  split at found
  · rw [List.mem_singleton.mp found]
  · cases found

/-- Only a line with a sound label directive has issues about its label, and of these at most one. -/
theorem Line.labelIssues_cases (labels : LabelTable) (used : List String) (line : Line) :
    line.labelIssues labels used = [] ∨ ∃ issue name, line.labelIssues labels used = [issue] ∧
      issue.defect.heading = .label ∧ line.directive? = some (.label name) := by
  cases definition : line.definition? with
  | none => exact .inl (by rw [labelIssues, definition])
  | some name =>
    have written := Line.directive?_of_definition definition
    simp only [labelIssues, definition]
    split
    · exact .inr ⟨_, name, rfl, rfl, written⟩
    · split
      · exact .inl rfl
      · exact .inr ⟨_, name, rfl, rfl, written⟩

theorem heading_of_labelIssues {labels : LabelTable} {used : List String} {line : Line} {issue : Issue}
    (found : issue ∈ line.labelIssues labels used) : issue.defect.heading = .label := by
  rcases line.labelIssues_cases labels used with silent | ⟨only, _, single, label, _⟩
  · rw [silent] at found
    cases found
  · rw [single, List.mem_singleton] at found
    rwa [found]

theorem Line.directiveIssues_of_directive {line : Line} {directive : Directive}
    (written : line.directive? = some directive) (labels : LabelTable) (size : Nat) :
    line.directiveIssues labels size = line.soundDirectiveIssues labels size directive := by
  obtain ⟨keyword, args, content, read⟩ := Line.directive?_eq_some_iff.mp written
  rw [Line.directiveIssues, content]
  simp only [read]

/-- Under the other headings there is only what is wrong with the directive. -/
theorem mem_directiveIssues {script : Script} {line : Line} {issue : Issue} (found : issue ∈ script.issues line)
    (other : issue.defect.heading ∉ .label :: .unknownSpeaker :: Heading.ofModifiers) :
    issue ∈ line.directiveIssues script.labels script.size := by
  simp only [List.mem_cons, not_or] at other
  obtain ⟨label, speaker, modifier⟩ := other
  simp only [Script.issues, Line.issues, List.mem_append] at found
  rcases found with ((said | directive) | block) | defined
  · exact absurd (by rw [defect_of_speakerIssues said]; rfl) speaker
  · exact directive
  · exact absurd (heading_of_blockIssues block) modifier
  · exact absurd (heading_of_labelIssues defined) label

/-- Only what is wrong with the label can be that nothing refers to it. -/
theorem mem_labelIssues {script : Script} {line : Line} {issue : Issue} (found : issue ∈ script.issues line)
    (told : issue.defect = .labelUnreferenced) : issue ∈ line.labelIssues script.labels script.used := by
  simp only [Script.issues, Line.issues, List.mem_append] at found
  rcases found with ((said | directive) | block) | defined
  · exact absurd (told.symm.trans (defect_of_speakerIssues said)) (by decide)
  · obtain ⟨_, _, error, _⟩ := isErrorOf_of_directiveIssues directive
    exact absurd error (by rw [told]; decide)
  · exact absurd (heading_of_blockIssues block) (by rw [told]; decide)
  · exact defined

end Narrative
