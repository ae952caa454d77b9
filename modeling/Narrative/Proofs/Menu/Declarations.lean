import Mathlib.Data.List.Induction
import Narrative.Proofs.Menu.Decision
import Narrative.Shell.Likeness

/-!
Declarations of a scene. Of the declarations for the command and the argument of a request, both in canonical form, the
last counts (`Affordances.declared?_ofDeclarations`), and it is found in whatever form it was declared. So a command of
the story succeeds exactly where success is declared last and the blade is where the command needs it
(`fares_as_declared`).
-/
namespace Narrative

/-- A declaration of how a command with an argument fares. -/
structure Declaration where
  command : Command
  argument : String
  status : Status

/-- Whether a declaration is for the command and the argument of a request. -/
def Declaration.IsFor (request : Request) (d : Declaration) : Prop :=
  d.command.canonical = request.canonical ∧ d.argument = request.argument

instance (request : Request) (d : Declaration) : Decidable (d.IsFor request) := inferInstanceAs (Decidable (_ ∧ _))

/-- Whether a status is that of the last declaration for a request. -/
def DeclaredLast (request : Request) (declarations : List Declaration) (status : Status) : Prop :=
  ∃ earlier d later, declarations = earlier ++ d :: later ∧ d.IsFor request ∧ d.status = status ∧
    ∀ other ∈ later, ¬ other.IsFor request

/-- Whether the blade is where a command needs it: out of hand to be taken, and in hand to be dropped or thrown or to
    slay someone. -/
def Command.FitsBlade (c : Command) (ctx : Context) : Prop :=
  (c = .take → ctx.blade ≠ .held) ∧ (c = .drop ∨ c = .throwIt ∨ c = .slay → ctx.blade = .held)

instance (c : Command) (ctx : Context) : Decidable (c.FitsBlade ctx) := inferInstanceAs (Decidable (_ ∧ _))

theorem Command.bladeAllows_iff (c : Command) (ctx : Context) : c.bladeAllows ctx = true ↔ c.FitsBlade ctx := by
  cases c <;> simp [bladeAllows, FitsBlade]

namespace DeclaredLast

variable {request : Request} {declarations : List Declaration} {status : Status}

theorem not_nil : ¬ DeclaredLast request [] status := by
  rintro ⟨earlier, d, later, made, _⟩
  simp at made

theorem mem (last : DeclaredLast request declarations status) : ∃ d ∈ declarations, d.IsFor request := by
  obtain ⟨earlier, d, later, rfl, same, _⟩ := last
  exact ⟨d, by simp, same⟩

theorem append_single_iff (d : Declaration) : DeclaredLast request (declarations ++ [d]) status ↔
    if d.IsFor request then d.status = status else DeclaredLast request declarations status := by
  constructor
  · rintro ⟨earlier, found, later, made, same, fares, others⟩
    rcases List.eq_nil_or_concat later with rfl | ⟨between, final, rfl⟩
    · obtain ⟨_, rfl⟩ : declarations = earlier ∧ d = found := by simpa using List.append_inj' made rfl
      rwa [if_pos same]
    · obtain ⟨rfl, rfl⟩ : declarations = earlier ++ found :: between ∧ d = final := by
        rw [List.concat_eq_append, ← List.cons_append, ← List.append_assoc] at made
        simpa using List.append_inj' made rfl
      rw [if_neg (others d (by simp))]
      exact ⟨earlier, found, between, rfl, same, fares, fun other inside => others other (by simp [inside])⟩
  · split
    case isTrue same =>
      rintro rfl
      exact ⟨declarations, d, [], rfl, same, rfl, by simp⟩
    case isFalse other =>
      rintro ⟨earlier, found, later, rfl, same, fares, others⟩
      refine ⟨earlier, found, later ++ [d], by simp, same, fares, ?_⟩
      simpa [or_imp, forall_and] using ⟨others, other⟩

end DeclaredLast

namespace Affordances

/-- The affordances of a scene with declarations, in the order in which they are made. -/
def ofDeclarations (declarations : List Declaration) : Affordances :=
  declarations.foldl (fun scene d => scene.declare d.command d.argument d.status) {}

theorem declared?_declare (scene : Affordances) (request : Request) (d : Declaration) :
    (scene.declare d.command d.argument d.status).declared? request.canonical request.argument =
      if d.IsFor request then some d.status else scene.declared? request.canonical request.argument := by
  by_cases same : d.IsFor request
  · obtain ⟨command, argument⟩ := same
    simp [declare, declared?, Declaration.IsFor, command, argument]
  · have other : ((d.command.canonical, d.argument) == (request.canonical, request.argument)) = false := by
      simpa [Declaration.IsFor] using same
    simp only [declare, declared?, List.find?_cons, other, if_neg same]

theorem declared?_ofDeclarations (declarations : List Declaration) (request : Request) (status : Status) :
    (ofDeclarations declarations).declared? request.canonical request.argument = some status ↔
      DeclaredLast request declarations status := by
  induction declarations using List.reverseRecOn with
  | nil => simp [ofDeclarations, declared?, DeclaredLast.not_nil]
  | append_singleton declarations d ih =>
    rw [DeclaredLast.append_single_iff, ← ih, ofDeclarations, List.foldl_concat, ← ofDeclarations, declared?_declare]
    split <;> simp

theorem declared?_of_undeclared {declarations : List Declaration} {request : Request}
    (undeclared : ∀ d ∈ declarations, ¬ d.IsFor request) :
    (ofDeclarations declarations).declared? request.canonical request.argument = none := by
  refine Option.eq_none_iff_forall_ne_some.mpr fun status declared => ?_
  obtain ⟨d, inside, same⟩ := ((declared?_ofDeclarations declarations request status).mp declared).mem
  exact undeclared d inside same

theorem undeclared_ne_success (c : Command) : undeclared c ≠ .success ∧ undeclared c ≠ .preconditionUnmet := by
  cases c <;> simp [undeclared]

variable {scene : Affordances} {request : Request} {ctx : Context}

theorem status_of_some {declared : Status} (here : scene.declared? request.canonical request.argument = some declared) :
    scene.status request ctx =
      if declared = .success ∧ ¬ request.canonical.FitsBlade ctx then .preconditionUnmet else declared := by
  simp [status, here, ← Command.bladeAllows_iff]

theorem status_of_none (missing : scene.declared? request.canonical request.argument = none) :
    scene.status request ctx = undeclared request.canonical := by
  simp [status, missing, (undeclared_ne_success request.canonical).1]

/-- How a request fares in a context after some declarations. -/
structure Fares (declarations : List Declaration) (request : Request) (ctx : Context) (status : Status) : Prop where
  success : status = .success ↔
    DeclaredLast request declarations .success ∧ request.canonical.FitsBlade ctx
  unmet : status = .preconditionUnmet ↔ DeclaredLast request declarations .preconditionUnmet ∨
    DeclaredLast request declarations .success ∧ ¬ request.canonical.FitsBlade ctx
  unchanged : ∀ other, other ≠ .success → DeclaredLast request declarations other → status = other
  undeclared : (∀ d ∈ declarations, ¬ d.IsFor request) →
    status = if request.canonical = .go ∨ request.canonical = .gallery then .targetAbsent else .disallowed

theorem fares_status (declarations : List Declaration) (request : Request) (ctx : Context) :
    Fares declarations request ctx ((ofDeclarations declarations).status request ctx) := by
  have last := declared?_ofDeclarations declarations request
  cases here : (ofDeclarations declarations).declared? request.canonical request.argument with
  | none =>
    have never (status : Status) : ¬ DeclaredLast request declarations status := by simp [← last, here]
    have ⟨not_success, not_unmet⟩ := undeclared_ne_success request.canonical
    rw [status_of_none here]
    exact {
      success := by simp [never, not_success]
      unmet := by simp [never, not_unmet]
      unchanged := fun other _ declared => absurd declared (never other)
      undeclared := fun _ => by cases request.canonical <;> rfl }
  | some declared =>
    have only (status : Status) : DeclaredLast request declarations status ↔ declared = status := by simp [← last, here]
    rw [status_of_some here]
    exact {
      success := by grind
      unmet := by grind
      unchanged := by grind
      undeclared := fun none_for => by simp [declared?_of_undeclared none_for] at here }

/-- Where commands of the story count, a line that reads as one comes to what was declared for it: it succeeds exactly
    where success was declared last, in whatever form, and the blade is where the command needs it. -/
theorem fares_as_declared [Likeness] {line : String} {request : Request} (read : Request.read line = .ok request)
    (story : request.isMeta = false) (declarations : List Declaration) (ctx : Context) :
    (∀ m : Menu, m.exclusive = false → m.reading (some ctx) line = .aboutStory request ctx) ∧
      ∃ status, (ofDeclarations declarations).outcome request ctx =
          .command request.canonical request.argument status ∧
        Fares declarations request ctx status := by
  refine ⟨fun m inclusive => ?_, _, rfl, fares_status declarations request ctx⟩
  have decides : m.Decides (some ctx) line (.aboutStory request ctx) :=
    .aboutStory ((Request.read_trim line).trans read) story inclusive rfl
  exact Menu.reading_of_decides decides

/-- A direction that is forbidden behind its verb and then allowed by itself can be taken behind any verb. -/
theorem fares_as_declared_of_walk :
    let declarations : List Declaration :=
      [⟨.go, "forward", .disallowed⟩, ⟨.drop, "blade", .success⟩, ⟨.directGo, "forward", .success⟩]
    let line := "Walk  forward"
    Request.read line = .ok ⟨.go, "forward"⟩ ∧ DeclaredLast ⟨.go, "forward"⟩ declarations .success ∧
      (∀ m : Menu, m.exclusive = false → m.reading (some .opening) line = .aboutStory ⟨.go, "forward"⟩ .opening) ∧
      (ofDeclarations declarations).outcome ⟨.go, "forward"⟩ .opening = .command .go "forward" .success := by
  intro declarations line
  have read : Request.read line = .ok ⟨.go, "forward"⟩ := by decide +kernel
  have last : DeclaredLast ⟨.go, "forward"⟩ declarations .success :=
    ⟨[⟨.go, "forward", .disallowed⟩, ⟨.drop, "blade", .success⟩], ⟨.directGo, "forward", .success⟩, [], rfl,
      ⟨rfl, rfl⟩, rfl, by simp⟩
  obtain ⟨reads, status, outcome, fares⟩ := fares_as_declared read rfl declarations .opening
  have succeeds : status = .success := fares.success.mpr ⟨last, by decide⟩
  exact ⟨read, last, reads, succeeds ▸ outcome⟩

end Affordances
end Narrative
