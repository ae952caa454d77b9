import Narrative.Proofs.Play.Resolution
import Narrative.Proofs.Script.Bindings
import Narrative.Proofs.Script.Jumps

/-!
Where labels take a run. A switch that names a bound label goes to its line, and so does a start there. A jump does if
the label is no integer; an integer is the number of a line, even where a label has the same spelling
(`Line.jumpsTo_of_integer`). The check reads the word of a jump in the same way (`jumpsTo_of_bound`).
-/
namespace Narrative

/-- In a story state, a line takes every run to a place and does nothing else. -/
def Line.JumpsTo (script : Script) (ctx : Context) (line : Line) (place : Nat) : Prop :=
  ∀ {σ : Type} [Generator σ] (settings : PlaySettings) (state : Playback σ),
    state.step script settings ctx line = ({ state with cursor := state.cursor.moveTo place }, none)

/-- The directives that make no call and remember nothing. -/
def Directive.isPlain : Directive → Bool
  | jumpto _ | bladeSwitch _ _ _ | numSwitchJump _ => true
  | _ => false

section
variable {script : Script} {ctx : Context} {line : Line} {directive : Directive} (runs : line.runsIn ctx = true)
  (written : line.directive? = some directive) (plain : directive.isPlain = true)
include runs written plain

theorem perform_of_plain {σ : Type} [Generator σ] (settings : PlaySettings) (seen : List Arrival) (chance : σ) :
    line.perform script settings ctx seen chance = ⟨[], seen, chance, directive.route script ctx line false⟩ := by
  rw [perform_of_directive runs written]
  cases directive with
  | jumpto _ | bladeSwitch _ _ _ | numSwitchJump _ => rfl
  | _ => cases plain

/-- Such a line jumps where its route does. -/
theorem jumpsTo_iff {place : Nat} :
    line.JumpsTo script ctx place ↔ directive.route script ctx line false = .ok (.jump place) := by
  constructor
  · intro jumps
    -- A cursor at the place itself tells a jump to it from a step to the next line.
    have stepped := jumps {} (⟨⟨place, []⟩, {}, {}⟩ : Playback Tape)
    rw [Playback.step_eq, perform_of_plain runs written plain] at stepped
    obtain ⟨reached, verdict⟩ := Prod.mk.inj stepped
    cases goes : directive.route script ctx line false with
    | error fault => simp [Effect.course, goes] at verdict
    | ok move =>
      cases move with
      | next => simp [Effect.course, goes, Cursor.moveTo] at reached
      | halt => simp [Effect.course, goes] at verdict
      | jump target =>
        have same : target = place := by simpa [Effect.course, goes, Cursor.moveTo, Presenter.receiveAll] using reached
        rw [same]
  · intro goes σ _ settings state
    rw [Playback.step_eq, perform_of_plain runs written plain, goes]
    rfl

end

section
variable {script : Script} {ctx : Context} {line : Line} {word : String} (runs : line.runsIn ctx = true)
include runs

theorem jumpsTo_of_blade (content : line.content = .directive .bladeSwitch [word, word, word]) {place : Nat}
    (bound : script.labels.line? word = some place) : line.JumpsTo script ctx place := by
  have written : line.directive? = some (.bladeSwitch word word word) :=
    Line.directive?_eq_some_iff.mpr ⟨_, _, content, rfl⟩
  rw [jumpsTo_iff runs written rfl, Directive.route, ← goTo_eq_jump_iff.mpr bound]
  cases ctx.blade <;> rfl

theorem jumpsTo_of_number (content : line.content = .directive .numSwitchJump [word]) {place : Nat}
    (bound : script.labels.line? word = some place) : line.JumpsTo script ctx place := by
  have written : line.directive? = some (.numSwitchJump [word]) :=
    Line.directive?_eq_some_iff.mpr ⟨_, _, content, rfl⟩
  have chosen : countedLabel? ctx.number [word] = some word := by simp [countedLabel?]
  rw [jumpsTo_iff runs written rfl, Directive.route, chosen]
  exact goTo_eq_jump_iff.mpr bound

section
variable (content : line.content = .directive .jumpto [word])
include content

theorem jumpsTo_of_label (label : Number.integer? word = none) {place : Nat} :
    line.JumpsTo script ctx place ↔ script.labels.line? word = some place := by
  have written : line.directive? = some (.jumpto (.label word)) := by
    refine Line.directive?_eq_some_iff.mpr ⟨_, _, content, ?_⟩
    simp [Directive.read, Directive.single, Directive.jumpTarget, label]
  rw [jumpsTo_iff runs written rfl, Directive.route, goTo_eq_jump_iff]

theorem jumpsTo_of_integer {n : Int} (number : Number.integer? word = some n) {place : Nat} :
    line.JumpsTo script ctx place ↔ n = place + 1 ∧ place < script.size := by
  have written : line.directive? = some (.jumpto (.line n)) := by
    refine Line.directive?_eq_some_iff.mpr ⟨_, _, content, ?_⟩
    simp [Directive.read, Directive.single, Directive.jumpTarget, number]
  rw [jumpsTo_iff runs written rfl, Directive.route]
  by_cases inside : 1 ≤ n ∧ n ≤ script.size
  · rw [if_pos (by simpa using inside)]
    simp only [Except.ok.injEq, Move.jump.injEq]
    omega
  · rw [if_neg (by simpa using inside)]
    simp only [reduceCtorEq, false_iff]
    omega

/-- A jump to a bound label goes to its line unless the word is an integer that is not the number of that line. -/
theorem jumpsTo_iff_of_bound {place : Nat} (bound : script.labels.line? word = some place)
    (inside : place < script.size) :
    line.JumpsTo script ctx place ↔ ∀ n, Number.integer? word = some n → n = place + 1 := by
  cases number : Number.integer? word with
  | none =>
    rw [jumpsTo_of_label runs content number]
    simpa using bound
  | some n =>
    rw [jumpsTo_of_integer runs content number]
    simp [inside]

end
end

/-- A bound label leads to a line that defines it. A start at the label leads there, and so do a blade switch and a
    counted switch that name nothing else, wherever their gates let them run. A jump to it does unless the word is an
    integer: then it is the number of a line, to which the jump goes, and the check reports it if there is no such
    line. -/
theorem jumpsTo_of_bound {name source label : String} {place : Nat}
    (bound : (Script.parse name source).labels.line? label = some place) :
    let script := Script.parse name source
    (∃ line, script.line? place = some line ∧ line.definition? = some label) ∧
    (∀ ctx cursor, script.entry ctx cursor (.label label) = .ok place) ∧
    ∀ line ∈ script.lines,
      (∀ ctx, line.runsIn ctx = true →
        (line.content = .directive .bladeSwitch [label, label, label] → line.JumpsTo script ctx place) ∧
        (line.content = .directive .numSwitchJump [label] → line.JumpsTo script ctx place) ∧
        (line.content = .directive .jumpto [label] →
          (line.JumpsTo script ctx place ↔ ∀ n, Number.integer? label = some n → n = place + 1) ∧
          ∀ n : Nat, Number.integer? label = some (n + 1 : Int) → n < script.size → line.JumpsTo script ctx n)) ∧
      (line.content = .directive .jumpto [label] → ∀ policy,
        ((∃ finding ∈ script.check policy, finding.line = line.index ∧
          (finding.defect = .jumptoUnknownLabel ∨ finding.defect = .jumptoIndexOutOfRange)) ↔
          ∃ n, Number.integer? label = some n ∧ ¬ (1 ≤ n ∧ n ≤ script.size))) := by
  intro script
  have placed : script.Placed := Script.placed_of_parse name source
  have inside := placed.lt_of_bound bound
  refine ⟨placed.bound bound, ?_, ?_⟩
  · intro ctx cursor
    rw [Script.entry, bound]
  · intro line member
    refine ⟨fun ctx runs => ⟨?_, ?_, ?_⟩, ?_⟩
    · intro content
      exact jumpsTo_of_blade runs content bound
    · intro content
      exact jumpsTo_of_number runs content bound
    · intro content
      refine ⟨jumpsTo_iff_of_bound runs content bound inside, ?_⟩
      intro n number short
      exact (jumpsTo_of_integer runs content number).mpr ⟨rfl, short⟩
    · intro content policy
      have known : (Script.parse name source).labels.contains label = true := by
        rw [← LabelTable.isSome_line?, bound]
        rfl
      exact jump_reported_iff_of_known content member policy known

theorem jumpsTo_of_bound_end :
    let script := Script.parse "end" "jumpto end\nHero: One.\nlabel end\nHero: Two."
    script.labels.line? "end" = some 2 ∧ ∃ line, script.line? 0 = some line ∧ line.JumpsTo script {} 2 ∧
      ¬ ∃ finding ∈ script.check {}, finding.line = line.index ∧
        (finding.defect = .jumptoUnknownLabel ∨ finding.defect = .jumptoIndexOutOfRange) := by
  intro script
  have facts : script.labels.line? "end" = some 2 ∧ Number.integer? "end" = none ∧
      (script.line? 0).map (fun line => (line.content, line.runsIn {})) =
        some (.directive .jumpto ["end"], true) := by
    decide +kernel
  obtain ⟨bound, word, found⟩ := facts
  obtain ⟨line, here, told⟩ := Option.map_eq_some_iff.mp found
  obtain ⟨content, runs⟩ := Prod.mk.inj told
  obtain ⟨_, _, leads⟩ := jumpsTo_of_bound bound
  obtain ⟨moves, reports⟩ := leads line (List.mem_of_getElem? here)
  refine ⟨bound, line, here, ?_, ?_⟩
  · refine (((moves {} runs).2.2 content).1).mpr ?_
    intro n number
    rw [word] at number
    cases number
  · rw [reports content {}, word]
    simp

/-- Not every bound label is where a jump to it goes: the number of another line is spelled like it. Nor does the check
    take the label for a target. -/
theorem not_jumpsTo_of_three :
    let script := Script.parse "three" "jumpto 3\nHero: One.\nHero: Two.\nlabel 3\nHero: Three."
    let short := Script.parse "short" "jumpto 3\nlabel 3"
    script.labels.line? "3" = some 3 ∧ (∃ line, script.line? 0 = some line ∧ line.content = .directive .jumpto ["3"] ∧
      line.modifiers = [] ∧ ¬ line.JumpsTo script {} 3 ∧ line.JumpsTo script {} 2) ∧
    short.labels.line? "3" = some 1 ∧ (short.check {}).map (fun finding => (finding.line, finding.defect)) =
      [(0, .jumptoIndexOutOfRange), (1, .labelUnreferenced)] := by
  intro script short
  have facts : script.labels.line? "3" = some 3 ∧ Number.integer? "3" = some 3 ∧
      (script.line? 0).map (fun line => (line.content, line.modifiers, line.runsIn {})) =
        some (.directive .jumpto ["3"], [], true) ∧ script.size = 5 ∧
      short.labels.line? "3" = some 1 ∧ (short.check {}).map (fun finding => (finding.line, finding.defect)) =
        [(0, .jumptoIndexOutOfRange), (1, .labelUnreferenced)] := by
    decide +kernel
  obtain ⟨bound, number, found, size, bound', report⟩ := facts
  obtain ⟨line, here, told⟩ := Option.map_eq_some_iff.mp found
  simp only [Prod.mk.injEq] at told
  obtain ⟨content, plain, runs⟩ := told
  refine ⟨bound, ⟨line, here, content, plain, ?_, ?_⟩, bound', report⟩
  · rw [jumpsTo_of_integer runs content number]
    simp
  · rw [jumpsTo_of_integer runs content number, size]
    simp

end Narrative
