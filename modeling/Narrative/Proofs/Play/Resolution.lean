import Narrative.Proofs.Play.Control

/-!
The labels that directives resolve to. A directive that is carried out resolves to one label or to none
(`Directive.target?`), and to none that it does not name, spelled out or by the base of a source switch
(`names_of_target`). A run jumps where the label is bound, or to a line that a jump tells by its number
(`route_eq_jump_iff`, `target_of_jump`).
-/
namespace Narrative

variable {σ : Type} [Generator σ]

namespace Directive

/-- The label that a directive resolves to in a story state, where `again` says whether the arrival was made before.
    A jump to a line by its number resolves to none. -/
def target? (labels : LabelTable) (ctx : Context) (again : Bool) : Directive → Option String
  | jumpto (.label name) => some name
  | firstSwitch target | moodSwitch target => if again then some target else none
  | sourceSwitch base => (labels.suffixed? base ctx.source).map (·.name)
  | bladeSwitch held former never => some (bladeLabel held former never ctx.blade)
  | switchJump names => presentLabel? ctx.voices names
  | numSwitchJump names => countedLabel? ctx.number names
  | stringSwitchJump pairs => pairedLabel? ctx.string pairs
  | jumpto (.line _) | label _ | halt | pause _ _ | nowPlaying _ => none

/-- Whether a directive names a label: it spells the label out, or it is a source switch with a base in front of it. -/
def Names (name : String) (directive : Directive) : Prop :=
  name ∈ directive.references ∨ ∃ base, directive = .sourceSwitch base ∧ begins base name = true

theorem begins_append (base ending : String) : begins base (base ++ ending) = true := by
  rw [begins_iff, String.toList_append]
  exact List.prefix_append ..

theorem exists_append_of_begins {base name : String} (start : begins base name = true) :
    ∃ ending, name = base ++ ending := by
  obtain ⟨rest, whole⟩ := begins_iff.mp start
  refine ⟨String.ofList rest, ?_⟩
  rw [← String.toList_inj, String.toList_append, String.toList_ofList, whole]

end Directive

theorem goTo_eq_jump_iff {script : Script} {label : String} {place : Nat} :
    script.goTo label = .ok (.jump place) ↔ script.labels.line? label = some place := by
  rw [Script.goTo]
  cases script.labels.line? label <;> simp

theorem mem_of_presentLabel? {voices : Voices} {names : List String} {name : String}
    (chosen : presentLabel? voices names = some name) : name ∈ names := by
  rw [presentLabel?, Option.or_eq_some_iff] at chosen
  rcases chosen with present | ⟨_, general⟩
  · exact List.mem_of_find?_eq_some present
  · exact List.mem_of_find?_eq_some general

theorem mem_of_pairedLabel? {string : Option String} {pairs : List (String × String)} {name : String}
    (chosen : pairedLabel? string pairs = some name) : name ∈ pairs.map (·.2) := by
  rw [pairedLabel?, Option.map_eq_some_iff] at chosen
  obtain ⟨pair, found, rfl⟩ := chosen
  rw [Option.or_eq_some_iff] at found
  rcases found with exact_match | ⟨_, general⟩
  · obtain ⟨s, _, found⟩ := Option.bind_eq_some_iff.mp exact_match
    exact List.mem_map_of_mem (List.mem_of_find?_eq_some found)
  · exact List.mem_map_of_mem (List.mem_of_find?_eq_some general)

/-- What stands for a base and a source is the base with an ending. -/
theorem exists_append_of_suffixed {table : LabelTable} {base : String} {source : Option String} {chosen : Label}
    (found : table.suffixed? base source = some chosen) : ∃ ending, chosen.name = base ++ ending := by
  obtain ⟨_, ⟨own, _, named⟩ | ⟨named, _⟩⟩ := LabelTable.suffixed?_eq_some_iff.mp found
  · exact ⟨own, named⟩
  · exact ⟨LabelTable.defaultSuffix, named⟩

namespace Directive
variable {script : Script} {ctx : Context} {line : Line} {again : Bool} {directive : Directive} {name : String}

/-- A directive resolves to no label that it does not name. -/
theorem names_of_target {labels : LabelTable} (resolved : directive.target? labels ctx again = some name) :
    directive.Names name := by
  cases directive with
  | jumpto target =>
    cases target with
    | label word =>
      cases resolved
      exact .inl (List.mem_singleton_self name)
    | line n => cases resolved
  | firstSwitch target | moodSwitch target =>
    cases again with
    | false => cases resolved
    | true =>
      cases resolved
      exact .inl (List.mem_singleton_self name)
  | sourceSwitch base =>
    obtain ⟨chosen, found, rfl⟩ := Option.map_eq_some_iff.mp resolved
    obtain ⟨ending, whole⟩ := exists_append_of_suffixed found
    exact .inr ⟨base, rfl, by rw [whole, begins_append]⟩
  | bladeSwitch held former never =>
    cases resolved
    refine .inl ?_
    cases ctx.blade <;> simp [bladeLabel, references]
  | switchJump names => exact .inl (mem_of_presentLabel? resolved)
  | numSwitchJump names => exact .inl (List.mem_of_getElem? resolved)
  | stringSwitchJump pairs => exact .inl (mem_of_pairedLabel? resolved)
  | label _ | halt | pause _ _ | nowPlaying _ => cases resolved

/-- A directive that resolves to a label goes to it. -/
theorem route_of_target (resolved : directive.target? script.labels ctx again = some name) :
    directive.route script ctx line again = script.goTo name := by
  cases directive with
  | jumpto target =>
    cases target with
    | label word =>
      cases resolved
      rfl
    | line n => cases resolved
  | firstSwitch target | moodSwitch target =>
    cases again with
    | false => cases resolved
    | true =>
      cases resolved
      rfl
  | sourceSwitch base =>
    obtain ⟨chosen, found, rfl⟩ := Option.map_eq_some_iff.mp resolved
    rw [route, found, Script.goTo, LabelTable.line?_of_suffixed found]
  | bladeSwitch held former never =>
    cases resolved
    rfl
  | switchJump names | numSwitchJump names | stringSwitchJump pairs =>
    rw [target?] at resolved
    rw [route, resolved]
  | label _ | halt | pause _ _ | nowPlaying _ => cases resolved

/-- A directive jumps only where the label that it resolves to is bound, and a jump to the line with its number. -/
theorem route_eq_jump_iff {place : Nat} :
    directive.route script ctx line again = .ok (.jump place) ↔
      (∃ name, directive.target? script.labels ctx again = some name ∧ script.labels.line? name = some place) ∨
        directive = .jumpto (.line (place + 1)) ∧ place < script.size := by
  cases resolved : directive.target? script.labels ctx again with
  | some name =>
    have other : directive ≠ .jumpto (.line (place + 1)) := by
      rintro rfl
      cases resolved
    rw [route_of_target resolved, goTo_eq_jump_iff]
    simp [other]
  | none =>
    cases directive with
    | jumpto target =>
      cases target with
      | label word => cases resolved
      | line n =>
        simp only [route, jumpto.injEq, JumpTarget.line.injEq]
        by_cases inside : 1 ≤ n ∧ n ≤ script.size
        · rw [if_pos (by simpa using inside)]
          simp only [Except.ok.injEq, Move.jump.injEq, reduceCtorEq, false_and, exists_false, false_or]
          omega
        · rw [if_neg (by simpa using inside)]
          simp only [reduceCtorEq, false_and, exists_false, false_or, false_iff]
          omega
    | firstSwitch target | moodSwitch target =>
      cases again with
      | false => simp [route]
      | true => cases resolved
    | sourceSwitch base => simp [route, Option.map_eq_none_iff.mp resolved]
    | bladeSwitch held former never => cases resolved
    | switchJump names | numSwitchJump names | stringSwitchJump pairs =>
      rw [target?] at resolved
      simp [route, resolved]
    | halt =>
      simp only [route]
      split <;> simp
    | label _ | pause _ _ | nowPlaying _ => simp [route]

end Directive

/-- A line jumps where a label is bound to which its directive resolves, or where it tells the number. -/
theorem target_of_jump {script : Script} {settings : PlaySettings} {ctx : Context} {line : Line}
    {seen : List Arrival} {chance : σ} {place : Nat}
    (jumps : (line.perform script settings ctx seen chance).move = .ok (.jump place)) :
    line.runsIn ctx = true ∧ ∃ directive, line.directive? = some directive ∧
      ((∃ name again, directive.target? script.labels ctx again = some name ∧ script.labels.line? name = some place) ∨
        directive = .jumpto (.line (place + 1))) := by
  by_cases runs : line.runsIn ctx = true
  · refine ⟨runs, ?_⟩
    cases written : line.directive? with
    | some directive =>
      rw [perform_of_directive runs written, Directive.route_eq_jump_iff] at jumps
      rcases jumps with ⟨name, resolved, bound⟩ | ⟨number, _⟩
      · exact ⟨directive, rfl, .inl ⟨name, _, resolved, bound⟩⟩
      · exact ⟨directive, rfl, .inr number⟩
    | none =>
      rcases perform_cases script ctx line seen settings chance with
        ⟨_, move⟩ | ⟨_, _, move⟩ | ⟨keyword, args, directive, content, read, _⟩
      · rw [move] at jumps
        cases jumps
      · rw [move] at jumps
        cases jumps
      · rw [Line.directive?_eq_some_iff.mpr ⟨keyword, args, content, read⟩] at written
        cases written
  · simp [Line.perform, runs] at jumps

end Narrative
