import Narrative.Proofs.Play.Endings
import Narrative.Proofs.Play.Resolution
import Narrative.Proofs.Script.Bindings
import Narrative.Proofs.Script.Headings

/-!
Labels that nothing refers to. The check notes a bound label exactly if no directive of the script names it, whatever
the gates of the directive are (`noted_iff_unnamed`). Since a directive resolves only to what it names, no run resolves
one to such a label, and a run comes to its line only where it starts there, falls through from the line before, or
jumps there by number (`comesTo_of_unnamed`).
-/
namespace Narrative

variable {σ : Type} [Generator σ]

/-- A bound label is used if a directive names it. -/
theorem mem_used_iff_named {script : Script} {label : String} (bound : script.labels.contains label = true) :
    label ∈ script.used ↔
      ∃ line ∈ script.lines, ∃ directive, line.directive? = some directive ∧ directive.Names label := by
  rw [Script.mem_used_iff]
  simp only [Directive.mem_uses_iff, bound, true_and]
  rfl

/-- A line is noted for the label that it defines, if the label is bound there and not used. -/
theorem unreferenced_iff {labels : LabelTable} {used : List String} {line : Line} {issue : Issue} :
    issue ∈ line.labelIssues labels used ∧ issue.defect = .labelUnreferenced ↔
      ∃ label, line.definition? = some label ∧ labels.line? label = some line.index ∧ label ∉ used ∧
        issue = ⟨.labelUnreferenced, [label]⟩ := by
  rw [Line.labelIssues]
  cases line.definition? with
  | none => simp
  | some label =>
    by_cases own : labels.line? label = some line.index
    · by_cases known : label ∈ used
      · simp [own, known]
      · simp only [own, bne_self_eq_false, Bool.false_eq_true, if_false, List.contains_iff_mem, known,
          List.mem_singleton, Option.some.injEq]
        constructor
        · rintro ⟨rfl, _⟩
          exact ⟨label, rfl, own, known, rfl⟩
        · rintro ⟨_, rfl, _, _, rfl⟩
          exact ⟨rfl, rfl⟩
    · have other : (labels.line? label != some line.index) = true := bne_iff_ne.mpr own
      simp only [other, if_true, List.mem_singleton, Option.some.injEq]
      constructor
      · rintro ⟨rfl, told⟩
        cases told
      · rintro ⟨_, rfl, same, _⟩
        exact absurd same own

section
variable {name source label : String} {place : Nat} (policy : Policy)
  (bound : (Script.parse name source).labels.line? label = some place)
include bound

/-- The note for a bound label stands at its line. -/
theorem details_iff_of_unreferenced {finding : Finding} (reported : finding ∈ (Script.parse name source).check policy)
    (told : finding.defect = .labelUnreferenced) : finding.details = [label] ↔ finding.line = place := by
  obtain ⟨line, member, issue, found, rfl⟩ := mem_check_iff.mp reported
  obtain ⟨own, defines, there, _, rfl⟩ := unreferenced_iff.mp ⟨mem_labelIssues found told, told⟩
  have placed : (Script.parse name source).Placed := Script.placed_of_parse name source
  show [own] = [label] ↔ line.index = place
  constructor
  · intro same
    obtain rfl := List.singleton_inj.mp same
    exact Option.some.inj (there.symm.trans bound)
  · rintro rfl
    obtain ⟨other, here, defines'⟩ := placed.bound bound
    obtain rfl : line = other := Option.some.inj ((placed.line?_of_mem member).symm.trans here)
    rw [Option.some.inj (defines.symm.trans defines')]

/-- A bound label is noted exactly if no directive names it. -/
theorem noted_iff_unnamed :
    (∃ finding ∈ (Script.parse name source).check policy, finding.defect = .labelUnreferenced ∧
      finding.details = [label]) ↔
      ∀ line ∈ (Script.parse name source).lines, ∀ directive, line.directive? = some directive →
        ¬ directive.Names label := by
  have contained : (Script.parse name source).labels.contains label = true := LabelTable.contains_iff.mpr ⟨place, bound⟩
  have unused : (∀ line ∈ (Script.parse name source).lines, ∀ directive, line.directive? = some directive →
      ¬ directive.Names label) ↔ label ∉ (Script.parse name source).used := by
    rw [mem_used_iff_named contained]
    simp only [not_exists, not_and]
  have placed : (Script.parse name source).Placed := Script.placed_of_parse name source
  rw [unused]
  constructor
  · rintro ⟨finding, reported, told, about⟩
    obtain ⟨line, member, issue, found, rfl⟩ := mem_check_iff.mp reported
    obtain ⟨own, _, _, free, rfl⟩ := unreferenced_iff.mp ⟨mem_labelIssues found told, told⟩
    rwa [← List.singleton_inj.mp about]
  · intro free
    obtain ⟨line, here, defines⟩ := placed.bound bound
    have own : (Script.parse name source).labels.line? label = some line.index := by rw [bound, placed.index here]
    have listed := (unreferenced_iff.mpr ⟨label, defines, own, free, rfl⟩).1
    exact ⟨_, mem_check_iff.mpr ⟨line, List.mem_of_getElem? here, ⟨.labelUnreferenced, [label]⟩,
      List.mem_append_right _ listed, rfl⟩, rfl, rfl⟩

end

namespace Playback

/-- How a run from a playback comes to a place after some lines without the help of a label. -/
inductive ComesTo (script : Script) (settings : PlaySettings) (ctx : Context) (state : Playback σ) (place : Nat) :
    Nat → Prop where
  /-- The caller starts the run there. -/
  | start (there : state.cursor.position = place) : ComesTo script settings ctx state place 0
  /-- It falls through from the line before. -/
  | through {lines : Nat} {before : Playback σ} {line : Line}
      (reached : state.advance script settings ctx lines = (before, none))
      (here : script.line? before.cursor.position = some line)
      (passes : (line.perform script settings ctx before.cursor.seen before.chance).move = .ok .next)
      (adjacent : before.cursor.position + 1 = place) : ComesTo script settings ctx state place (lines + 1)
  /-- A jump tells the number of the line. -/
  | number {lines : Nat} {before : Playback σ} {line : Line}
      (reached : state.advance script settings ctx lines = (before, none))
      (here : script.line? before.cursor.position = some line) (runs : line.runsIn ctx = true)
      (written : line.directive? = some (.jumpto (.line (place + 1)))) :
      ComesTo script settings ctx state place (lines + 1)

end Playback

/-- A run comes to the line of a label that no directive names without the help of a label. -/
theorem comesTo_of_unnamed {script : Script} (placed : script.Placed) {label : String} {place : Nat}
    (bound : script.labels.line? label = some place)
    (unnamed : ∀ line ∈ script.lines, ∀ directive, line.directive? = some directive → ¬ directive.Names label)
    {settings : PlaySettings} {ctx : Context} {state now : Playback σ} {lines : Nat}
    (reached : state.advance script settings ctx lines = (now, none)) (there : now.cursor.position = place) :
    state.ComesTo script settings ctx place lines := by
  cases lines with
  | zero =>
    refine .start ?_
    cases here : script.line? state.cursor.position with
    | none =>
      rw [Playback.advance_finished here] at reached
      cases reached
    | some line =>
      rw [Playback.advance_zero here] at reached
      cases reached
      exact there
  | succ lines =>
    obtain ⟨before, line, earlier, here, continues⟩ := Playback.step_of_advance reached
    rcases Playback.move_of_next _ _ _ _ _ continues with ⟨passes, adjacent⟩ | jumps
    · exact .through earlier here passes (adjacent.symm.trans there)
    · rw [there] at jumps
      obtain ⟨runs, directive, written, ⟨other, again, resolved, bound'⟩ | rfl⟩ := target_of_jump jumps
      · -- A line defines one label at most, so the other label is this one.
        obtain ⟨line', here', defines⟩ := placed.bound bound
        obtain ⟨line'', here'', defines'⟩ := placed.bound bound'
        obtain rfl := Option.some.inj (here'.symm.trans here'')
        obtain rfl := Option.some.inj (defines.symm.trans defines')
        exact absurd (Directive.names_of_target resolved) (unnamed line (List.mem_of_getElem? here) directive written)
      · exact .number earlier here runs written

/-- The check notes a bound label, at its line, exactly if no directive with sound arguments names it, gated or not.
    Then no directive resolves to the label in any story state, and however many lines a run executes, from whatever
    start and after whatever arrivals, it comes to the line of the label only by its start, from the line before, or by
    a jump to the number of the line. -/
theorem noted_iff_of_bound {name source label : String} {place : Nat}
    (bound : (Script.parse name source).labels.line? label = some place) (policy : Policy) :
    let script := Script.parse name source
    let noted := ∃ finding ∈ script.check policy, finding.defect = .labelUnreferenced ∧ finding.details = [label]
    (noted ↔ ∀ line ∈ script.lines, ∀ directive, line.directive? = some directive → ¬ directive.Names label) ∧
    (∀ finding ∈ script.check policy, finding.defect = .labelUnreferenced →
      (finding.details = [label] ↔ finding.line = place)) ∧
    (noted →
      (∀ line ∈ script.lines, ∀ directive, line.directive? = some directive →
        ∀ ctx again, directive.target? script.labels ctx again ≠ some label) ∧
      ∀ {σ : Type} [Generator σ] settings ctx start (state : Playback σ) position,
        script.entry ctx state.cursor start = .ok position →
        let entered : Playback σ := { state with cursor := state.cursor.moveTo position }
        ∀ lines now, entered.advance script settings ctx lines = (now, none) → now.cursor.position = place →
          entered.ComesTo script settings ctx place lines) := by
  intro script noted
  have told : noted ↔ _ := noted_iff_unnamed policy bound
  refine ⟨told, fun finding reported about => details_iff_of_unreferenced policy bound reported about, ?_⟩
  intro noted
  have unnamed := told.mp noted
  refine ⟨?_, ?_⟩
  · intro line member directive written ctx again resolved
    exact unnamed line member directive written (Directive.names_of_target resolved)
  · intro σ _ settings ctx start state position _ entered lines now reached there
    exact comesTo_of_unnamed (Script.placed_of_parse name source) bound unnamed reached there

/-- A label that only a gated source switch names is not noted. One to which only a number leads is, and a run comes to
    it by the number. -/
theorem noted_iff_of_idle :
    let script := Script.parse "idle" "label idle\nHero: Wait.\nsourceswitch to_ /// hasblade\njumpto 1\nlabel to_night"
    let state : Playback Tape := { chance := {} }
    script.accepted {} = true ∧
      (∃ line ∈ script.lines, ∃ directive, line.directive? = some directive ∧ directive.Names "to_night") ∧
      (∀ line ∈ script.lines, ∀ directive, line.directive? = some directive → ¬ directive.Names "idle") ∧
      ∃ now, state.advance script {} .blank 4 = (now, none) ∧ now.cursor.position = 0 ∧
        state.ComesTo script {} .blank 0 4 := by
  intro script state
  have facts : script.accepted {} = true ∧ script.labels.line? "idle" = some 0 ∧
      script.labels.line? "to_night" = some 4 ∧
      (script.check {}).map (fun finding => (finding.defect, finding.details)) = [(.labelUnreferenced, ["idle"])] ∧
      (state.advance script {} .blank 4).2 = none ∧ (state.advance script {} .blank 4).1.cursor.position = 0 := by
    decide +kernel
  obtain ⟨accepted, idle, night, report, on, back⟩ := facts
  have told : ∀ label, (∃ finding ∈ script.check {}, finding.defect = .labelUnreferenced ∧
      finding.details = [label]) ↔ label = "idle" := by
    intro label
    have among : (.labelUnreferenced, [label]) ∈
        (script.check {}).map (fun finding => (finding.defect, finding.details)) ↔ label = "idle" := by simp [report]
    simpa [List.mem_map] using among
  obtain ⟨unnamed, _, safe⟩ := noted_iff_of_bound idle {}
  have noted := (told "idle").mpr rfl
  refine ⟨accepted, ?_, unnamed.mp noted, _, Prod.ext rfl on, back, ?_⟩
  · by_contra free
    refine absurd ((told "to_night").mp ((noted_iff_of_bound night {}).1.mpr ?_)) (by decide)
    intro line member directive written names
    exact free ⟨line, member, directive, written, names⟩
  · exact (safe noted).2 {} .blank .beginning state 0 rfl 4 _ (Prod.ext rfl on) back

end Narrative
