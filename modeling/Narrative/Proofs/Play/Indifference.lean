import Narrative.Proofs.Play.Endings
import Narrative.Proofs.Script.Reordering

/-!
The order of modifiers is nothing to a run. Line by line, two scripts that differ in the order of the entries of their
blocks do the same (`Script.Reordered.step`), so they run the same from any start, in any state
(`Script.Reordered.run`). Nor is it anything to the check, but for the order in which it tells what it finds
(`reordered_indifferent`).
-/
namespace Narrative

variable {σ : Type} [Generator σ]

namespace Script.Reordered
variable {script other : Script}

theorem patience (reordered : script.Reordered other) : other.patience = script.patience := by
  have switches : other.lines.countP remembers = script.lines.countP remembers := by
    have pairs : List.Forall₂ Line.Reordered script.lines other.lines := reordered
    generalize script.lines = lines, other.lines = others at pairs
    induction pairs with
    | nil => rfl
    | @cons line line' lines others pair rest ih =>
      have same : remembers line' = remembers line := by
        simp only [remembers, Line.keyword?, pair.content]
      rw [List.countP_cons, List.countP_cons, same, ih]
  rw [Script.patience, Script.patience, reordered.size, switches]

theorem step (reordered : script.Reordered other) {line line' : Line} (pair : line.Reordered line')
    (settings : PlaySettings) (ctx : Context) (state : Playback σ) :
    state.step other settings ctx line' = state.step script settings ctx line := by
  have same := perform_of_same reordered.labels reordered.size pair.index pair.content (pair.runsIn ctx)
    pair.hasInterrupt pair.hasFlagGate settings state.cursor.seen state.chance
  simp only [Playback.step, same]

theorem run (reordered : script.Reordered other) (settings : PlaySettings) (ctx : Context) (start : Start)
    (state : Playback σ) : script.run settings ctx start state = other.run settings ctx start state := by
  have enters := entry_congr reordered.labels ctx state.cursor start
  cases entered : script.entry ctx state.cursor start with
  | error fault => rw [run_of_error entered, run_of_error (enters.trans entered)]
  | ok position =>
    have limits : other.allowed settings state.presenter = script.allowed settings state.presenter := by
      simp only [allowed, horizon, reordered.patience]
    rw [run_of_entry entered, run_of_entry (enters.trans entered), limits,
      Playback.advance_of_pairs reordered fun pair state => reordered.step pair settings ctx state]

end Script.Reordered

/-- The order of the entries on the lines of a script matters neither to its check, but for the order of findings and of
    their details, nor to what its lines ask of the story state, nor to any run. -/
theorem reordered_indifferent {script other : Script} (reordered : script.Reordered other) :
    List.Forall₂ (fun line line' => Multiset.Rel Issue.Alike (script.issues line : Multiset Issue)
      (other.issues line' : Multiset Issue)) script.lines other.lines ∧
    (∀ policy, Multiset.Rel Finding.Alike (script.check policy : Multiset Finding)
      (other.check policy : Multiset Finding) ∧ script.accepted policy = other.accepted policy) ∧
    List.Forall₂ (fun line line' => ∀ ctx, line.gates.blockedBy ctx = line'.gates.blockedBy ctx)
      script.lines other.lines ∧
    ∀ {σ : Type} [Generator σ] settings ctx start (state : Playback σ),
      script.run settings ctx start state = other.run settings ctx start state := by
  refine ⟨?_, ?_, ?_, ?_⟩
  · exact List.Forall₂.imp (fun _ _ pair => reordered.issues_of_pair pair) reordered
  · intro policy
    exact ⟨reordered.check policy, reordered.accepted policy⟩
  · exact List.Forall₂.imp (fun _ _ pair => pair.blockedBy) reordered
  · intro σ _ settings ctx start state
    exact reordered.run settings ctx start state

theorem reordered_indifferent_of_gates :
    let script := Script.parse "s" "Hero: Hm. /// ifnum(1); hasblade; ifnum(2); hasblade; x("
    let other := Script.parse "s" "Hero: Hm. /// x(; hasblade ;hasblade;ifnum(2);ifnum(1)"
    script.Reordered other ∧
      (script.check {}).map (·.details) = [["x("], ["hasblade"], ["1", "2"]] ∧
      (other.check {}).map (·.details) = [["x("], ["hasblade"], ["2", "1"]] ∧
      Multiset.Rel Finding.Alike (script.check {} : Multiset Finding) (other.check {} : Multiset Finding) ∧
      ∀ settings ctx start (state : Playback Tape),
        script.run settings ctx start state = other.run settings ctx start state := by
  intro script other
  have facts : script.Reordered other ∧
      (script.check {}).map (·.details) = [["x("], ["hasblade"], ["1", "2"]] ∧
      (other.check {}).map (·.details) = [["x("], ["hasblade"], ["2", "1"]] := by
    decide +kernel
  obtain ⟨reordered, first, second⟩ := facts
  obtain ⟨_, check, _, run⟩ := reordered_indifferent reordered
  exact ⟨reordered, first, second, (check {}).1, run⟩

end Narrative
