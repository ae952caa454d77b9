import Mathlib.Data.List.Perm.Basic
import Narrative.Play.Gate
import Narrative.Proofs.Script.Acceptance
import Narrative.Proofs.Script.Arguments
import Narrative.Proofs.Script.Lines

/-!
No gate is lost. The conditions of a line are those of its modifiers, put together (`perm_conditions`),
and in an accepted script every entry of an evaluated block is a modifier and every modifier but the
mark of an interruption is a condition (`gates_kept_of_accepted`).
-/
namespace Narrative

/-- The conditions that a modifier of a line spoken by `speaker` puts on the story state. -/
def Modifier.conditions (speaker : Option Persona) (modifier : Modifier) : List Condition :=
  modifier.flagConditions ++ modifier.personaConditions speaker ++ modifier.contextConditions

/-- The gates of modifiers are the conditions of each of them. -/
theorem perm_conditions (speaker : Option Persona) (ms : List Modifier) :
    (Gates.ofModifiers speaker ms).conditions.Perm (ms.flatMap (Modifier.conditions speaker)) :=
  ((List.flatMap_append_perm ms _ _).append_right _).trans (List.flatMap_append_perm ms _ _)

/-- A modifier that is no interruption is a condition, where a bare check of voices has a persona to mean
    and a check against voices lists one. -/
theorem conditions_ne_nil {speaker : Option Persona} {modifier : Modifier} (gate : modifier ≠ .interrupt)
    (spoken : modifier = .checkVoice [] → speaker ≠ none) (listed : modifier ≠ .checkNoVoice []) :
    modifier.conditions speaker ≠ [] := by
  cases modifier with
  | flag flag negated => simp [Modifier.conditions, Modifier.flagConditions]
  | context check negated => simp [Modifier.conditions, Modifier.contextConditions]
  | interrupt => exact absurd rfl gate
  | checkVoice personas =>
    cases personas with
    | nil =>
      obtain ⟨persona, rfl⟩ := Option.ne_none_iff_exists'.mp (spoken rfl)
      simp [Modifier.conditions, Modifier.personaConditions]
    | cons persona rest => simp [Modifier.conditions, Modifier.personaConditions]
  | checkNoVoice personas =>
    cases personas with
    | nil => exact absurd rfl listed
    | cons persona rest => simp [Modifier.conditions, Modifier.personaConditions]

private theorem entryIssue_error (fault : ModifierFault) :
    (Line.entryIssue fault).defect.defaultSeverity = .error := by
  cases fault <;> rfl

section
variable {policy : Policy} {script : Script} (keeps : policy.KeepsErrors) (accepted : script.accepted policy = true)
  {line : Line} (member : line ∈ script.lines)
include keeps accepted member

private theorem noted_of_block {issue : Issue} (found : issue ∈ line.blockIssues) :
    issue.defect.defaultSeverity = .note :=
  defaultSeverity_of_accepted keeps accepted member (by simp [Script.issues, Line.issues, found])

/-- In an accepted script a block that is there has entries. -/
theorem block_of_accepted : line.block = .absent ∨ ∃ entries, line.block = .entries entries := by
  cases block : line.block with
  | absent => exact .inl rfl
  | entries list => exact .inr ⟨list, rfl⟩
  | empty =>
    have reported : ⟨.emptyModifierList, []⟩ ∈ line.blockIssues := by simp [Line.blockIssues, block]
    cases noted_of_block keeps accepted member reported
  | dividers count =>
    have reported : ⟨.multipleDividers, [toString count]⟩ ∈ line.blockIssues := by simp [Line.blockIssues, block]
    cases noted_of_block keeps accepted member reported

/-- In an accepted script every entry of an evaluated block means something. -/
theorem ofEntry_of_accepted (evaluated : line.content.ignoresModifiers = false) {entry : Entry}
    (here : entry ∈ line.block.toList) : ∃ modifier, Modifier.ofEntry entry = .ok modifier := by
  cases read : Modifier.ofEntry entry with
  | ok modifier => exact ⟨modifier, rfl⟩
  | error fault =>
    obtain absent | ⟨entries, block⟩ := block_of_accepted keeps accepted member
    · simp [absent, Block.toList] at here
    · rw [block] at here
      have meaningless : Line.entryIssue fault ∈ Line.entryIssues entries :=
        List.mem_filterMap.mpr ⟨entry, here, by rw [read]⟩
      have reported : Line.entryIssue fault ∈ line.blockIssues := by
        simp [Line.blockIssues, block, evaluated, meaningless]
      have noted := noted_of_block keeps accepted member reported
      rw [entryIssue_error] at noted
      cases noted

/-- In an accepted script a bare check of voices stands on a line that a persona speaks. -/
theorem persona_of_accepted (bare : .checkVoice [] ∈ line.modifiers) : line.persona? ≠ none := by
  intro nobody
  have evaluated : line.content.ignoresModifiers = false := by
    by_contra ignored
    simp [Line.modifiers, ignored] at bare
  obtain absent | ⟨entries, block⟩ := block_of_accepted keeps accepted member
  · simp [Line.modifiers, absent, Block.toList] at bare
  · have reported : ⟨.checkVoiceWithoutPersona, [(line.speaker?.map Speaker.name).getD "no speaker"]⟩ ∈
        line.blockIssues := by
      simp [Line.blockIssues, Line.modifierIssues, block, evaluated, mem_distinctFrom, bare, nobody]
    cases noted_of_block keeps accepted member reported

end

private theorem map_eq_of_ok {entries : List Entry}
    (every : ∀ entry ∈ entries, ∃ modifier, Modifier.ofEntry entry = .ok modifier) :
    entries.map Modifier.ofEntry = (entries.filterMap fun entry => (Modifier.ofEntry entry).toOption).map .ok := by
  induction entries with
  | nil => rfl
  | cons entry rest ih =>
    obtain ⟨modifier, read⟩ := every entry (by simp)
    have others := ih fun other here => every other (by simp [here])
    simp [read, Except.toOption, others]

/-- What an author may rely on about the gates of a line: its block is sound, its modifiers are the
    entries of the block, one for one and in order, and each of them but the mark of an interruption has a
    condition among the gates. -/
structure Line.GatesKept (line : Line) : Prop where
  block : line.block = .absent ∨ ∃ entries, line.block = .entries entries ∧ entries ≠ []
  modifiers : line.block.toList.map Modifier.ofEntry = line.modifiers.map .ok
  gathered : line.gates.conditions.Perm (line.modifiers.flatMap (Modifier.conditions line.persona?))
  contributes : ∀ modifier ∈ line.modifiers, modifier ≠ .interrupt → modifier.conditions line.persona? ≠ []
  gated : (∃ entry ∈ line.block.toList, Modifier.ofEntry entry ≠ .ok .interrupt) → line.gates.isEmpty = false

private theorem gated_of_contributes {line : Line}
    (modifiers : line.block.toList.map Modifier.ofEntry = line.modifiers.map .ok)
    (contributes : ∀ modifier ∈ line.modifiers, modifier ≠ .interrupt → modifier.conditions line.persona? ≠ [])
    (written : ∃ entry ∈ line.block.toList, Modifier.ofEntry entry ≠ .ok .interrupt) :
    line.gates.isEmpty = false := by
  obtain ⟨entry, here, gate⟩ := written
  obtain ⟨modifier, member, read⟩ : ∃ modifier ∈ line.modifiers, .ok modifier = Modifier.ofEntry entry := by
    have mapped : Modifier.ofEntry entry ∈ line.modifiers.map .ok := modifiers ▸ List.mem_map_of_mem here
    simpa using mapped
  obtain ⟨condition, demanded⟩ := List.exists_mem_of_ne_nil _
    (contributes modifier member fun mark => gate (by rw [← read, mark]))
  have kept : condition ∈ line.gates.conditions :=
    (perm_conditions _ _).mem_iff.mpr (List.mem_flatMap.mpr ⟨modifier, member, demanded⟩)
  by_contra lost
  simp only [Bool.not_eq_false, Gates.isEmpty, Bool.and_eq_true, List.isEmpty_iff] at lost
  simp [Gates.conditions, lost] at kept

/-- An accepted script loses no gate that its author wrote, on any line that is not blank and defines no
    label. -/
theorem gates_kept_of_accepted {policy : Policy} (keeps : policy.KeepsErrors) {name source : String}
    (accepted : (Script.parse name source).accepted policy = true) {line : Line}
    (member : line ∈ (Script.parse name source).lines) (written : line.content ≠ .blank)
    (unlabelled : line.keyword? ≠ some .label) : line.GatesKept := by
  have evaluated : line.content.ignoresModifiers = false := by
    cases content : line.content with
    | blank => exact absurd content written
    | dialogue _ _ _ => rfl
    | directive keyword args => cases keyword <;> simp_all [Line.keyword?, Content.ignoresModifiers]
  have block : line.block = .absent ∨ ∃ entries, line.block = .entries entries ∧ entries ≠ [] := by
    refine (block_of_accepted keeps accepted member).imp_right ?_
    rintro ⟨entries, block⟩
    obtain ⟨place, start, text, rfl⟩ := Script.exists_ofText_of_parse member
    exact ⟨entries, block, Block.entries_ne_nil block⟩
  have modifiers : line.block.toList.map Modifier.ofEntry = line.modifiers.map .ok := by
    rw [map_eq_of_ok fun entry here => ofEntry_of_accepted keeps accepted member evaluated here]
    simp [Line.modifiers, evaluated]
  have contributes : ∀ modifier ∈ line.modifiers, modifier ≠ .interrupt →
      modifier.conditions line.persona? ≠ [] := by
    intro modifier here gate
    refine conditions_ne_nil gate ?_ ?_
    · rintro rfl
      exact persona_of_accepted keeps accepted member here
    · rintro rfl
      have mapped : .ok (.checkNoVoice []) ∈ line.block.toList.map Modifier.ofEntry :=
        modifiers ▸ List.mem_map_of_mem here
      obtain ⟨entry, -, read⟩ := List.mem_map.mp mapped
      exact Modifier.sound_of_ofEntry read rfl
  exact ⟨block, modifiers, perm_conditions _ _, contributes, gated_of_contributes modifiers contributes⟩

/-- All gates of a spoken line are kept, the bare check of voices included. -/
theorem gates_kept_of_hero :
    let script := Script.parse "gates" "Hero: Wait. /// checkvoice; ifnum(3); interrupt; notharsh"
    Policy.KeepsErrors {} ∧ script.accepted {} = true ∧
      ∃ line ∈ script.lines, line.content ≠ .blank ∧ line.keyword? ≠ some .label ∧ line.GatesKept ∧
        line.modifiers = [.checkVoice [], .context (.number 3) false, .interrupt, .flag .harsh true] := by
  intro script
  have keeps : Policy.KeepsErrors {} := fun _ error => error
  have accepted : script.accepted {} = true := by decide +kernel
  have some_line : script.lines ≠ [] := by decide +kernel
  obtain ⟨line, member⟩ := List.exists_mem_of_ne_nil _ some_line
  have shape : ∀ other ∈ script.lines, other.content ≠ .blank ∧ other.keyword? ≠ some .label ∧
      other.modifiers = [.checkVoice [], .context (.number 3) false, .interrupt, .flag .harsh true] := by
    decide +kernel
  obtain ⟨written, unlabelled, modifiers⟩ := shape line member
  exact ⟨keeps, accepted, line, member, written, unlabelled,
    gates_kept_of_accepted keeps accepted member written unlabelled, modifiers⟩

end Narrative
