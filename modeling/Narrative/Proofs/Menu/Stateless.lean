import Mathlib.Data.List.Basic
import Narrative.Proofs.Menu.Numbering

/-!
Menus without a context. A condition that reads no state is worth the same in every context (`holds_eq_of_stateless`),
so without a context exactly the conditions hold that could fail in none (`holdsStateless_iff`). An option that is
shown there is shown in every context, although it may be greyed (`appearance_of_shown_stateless`), and the options
keep their order (`shown_stateless_sublist`).
-/
namespace Narrative
namespace Condition

mutual

/-- A condition that reads no state is worth the same in all contexts. -/
theorem holds_eq_of_stateless (ctx other : Context) :
    ∀ c : Condition, c.readsState = false → c.holds ctx = c.holds other
  | .always, _ => rfl
  | .not inner, blind => by
    rw [readsState] at blind
    rw [holds, holds, holds_eq_of_stateless ctx other inner blind]
  | .all parts, blind => by
    rw [readsState] at blind
    rw [holds, holds, allHold_eq_of_stateless ctx other parts blind]
  | .any parts, blind => by
    rw [readsState] at blind
    rw [holds, holds, anyHolds_eq_of_stateless ctx other parts blind]

theorem allHold_eq_of_stateless (ctx other : Context) :
    ∀ parts : List Condition, someReadsState parts = false → allHold ctx parts = allHold other parts
  | [], _ => rfl
  | c :: rest, blind => by
    rw [someReadsState, Bool.or_eq_false_iff] at blind
    rw [allHold, allHold, holds_eq_of_stateless ctx other c blind.1, allHold_eq_of_stateless ctx other rest blind.2]

theorem anyHolds_eq_of_stateless (ctx other : Context) :
    ∀ parts : List Condition, someReadsState parts = false → anyHolds ctx parts = anyHolds other parts
  | [], _ => rfl
  | c :: rest, blind => by
    rw [someReadsState, Bool.or_eq_false_iff] at blind
    rw [anyHolds, anyHolds, holds_eq_of_stateless ctx other c blind.1, anyHolds_eq_of_stateless ctx other rest blind.2]

end

/-- A condition holds without a context exactly if it reads no state and holds in every context. -/
theorem holdsStateless_iff (c : Condition) :
    c.holdsStateless = true ↔ c.readsState = false ∧ ∀ ctx, c.holds ctx = true := by
  rw [holdsStateless, Bool.and_eq_true, Bool.not_eq_true']
  constructor
  · rintro ⟨blind, holds⟩
    refine ⟨blind, fun ctx => ?_⟩
    rw [holds_eq_of_stateless ctx .blank c blind]
    exact holds
  · rintro ⟨blind, always⟩
    exact ⟨blind, always .blank⟩

end Condition

theorem Visibility.holds_of_stateless {v : Visibility} (ctx : Context) (visible : v.holds none = true) :
    v.holds (some ctx) = true := by
  cases v with
  | always => rfl
  | fixed shown => exact visible
  | when condition => exact ((condition.holdsStateless_iff).mp visible).2 ctx

namespace Menu

/-- The options that are shown, greyed ones included, in the order of the menu. -/
def visible (m : Menu) (ctx : Option Context) : List Choice :=
  m.choices.filter fun c => m.appearance ctx c != .hidden

theorem map_id_shown (m : Menu) (ctx : Option Context) :
    (m.shown ctx).map (·.id) = (m.visible ctx).map (·.id) := by
  have ids := congrArg (List.map (·.1)) (m.map_shownFrom ctx 0 m.choices)
  simpa [List.map_map, Function.comp_def, shown, visible] using ids

/-- A context can grey an option that is shown without one, and nothing else. -/
theorem appearance_of_shown_stateless {m : Menu} {c : Choice} (ctx : Context) (shown : m.appearance none c ≠ .hidden) :
    m.appearance (some ctx) c = if c.isGreyed (some ctx) then .greyed else .available := by
  obtain ⟨unspent, visible, unlocked⟩ := appearance_ne_hidden_iff.mp shown
  simp [appearance, unspent, unlocked, Visibility.holds_of_stateless ctx visible]

/-- Without a context a condition holds exactly if it reads no state and holds in every context, and a condition
    that reads no state is worth the same in all contexts. So what a menu shows without a context it shows in every
    context, in the same order. -/
theorem shown_stateless_sublist :
    (∀ c : Condition, c.holdsStateless = true ↔ c.readsState = false ∧ ∀ ctx, c.holds ctx = true) ∧
      (∀ c : Condition, c.readsState = false → ∀ ctx other, c.holds ctx = c.holds other) ∧
      ∀ (m : Menu) (ctx : Context), (m.visible none).Sublist (m.visible (some ctx)) ∧
        ((m.shown none).map (·.id)).Sublist ((m.shown (some ctx)).map (·.id)) := by
  refine ⟨Condition.holdsStateless_iff, fun c blind ctx other => c.holds_eq_of_stateless ctx other blind, ?_⟩
  intro m ctx
  have kept : (m.visible none).Sublist (m.visible (some ctx)) := by
    refine List.monotone_filter_right m.choices fun c shown => ?_
    have look := appearance_of_shown_stateless ctx (by simpa using shown)
    cases greyed : c.isGreyed (some ctx) <;> simp [look, greyed]
  rw [map_id_shown, map_id_shown]
  exact ⟨kept, kept.map _⟩

/-- Without a context the door behind a negated flag is not shown although nothing has happened, and the den, which
    every context shows, may be greyed in one. -/
theorem shown_stateless_of_lodge :
    let condition : Condition := .not (.any [.not .always, .all [.always, .any []]])
    let m : Menu := { choices := [{ id := "back", template := "Back.", visibility := .when condition },
      { id := "door", template := "A door.", visibility := .when (.not (.flag .harsh)) },
      { id := "den", template := "The den.", tiedChapter := some "den" }] }
    condition.readsState = false ∧ (∀ ctx, condition.holds ctx = condition.holds .blank) ∧
      condition.holdsStateless = true ∧ (∀ ctx, condition.holds ctx = true) ∧
      (m.shown none).map (·.id) = ["back", "den"] ∧
      ∀ ctx, ["back", "den"].Sublist ((m.shown (some ctx)).map (·.id)) := by
  intro condition m
  have blind : condition.readsState = false := by decide
  have stateless : condition.holdsStateless = true := by decide +kernel
  have seen : (m.shown none).map (·.id) = ["back", "den"] := by decide +kernel
  obtain ⟨iff, same, kept⟩ := shown_stateless_sublist
  refine ⟨blind, fun ctx => same condition blind ctx .blank, stateless, ((iff condition).mp stateless).2, seen, ?_⟩
  intro ctx
  rw [← seen]
  exact (kept m ctx).2

end Menu
end Narrative
