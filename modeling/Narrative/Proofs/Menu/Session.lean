import Mathlib.Data.List.Forall2
import Narrative.Proofs.Menu.Decision
import Narrative.Shell.Likeness

/-!
What a whole call of a menu does. On a terminal that never fails, lines pass one by one, each with its mark
and at most one answer, up to the first that decides; the rest stay unread (`await_settles`). The
picks change only where an option is chosen, and commands of the story come only of menus that take them
(`resolve_settles`).
-/
namespace Narrative

namespace Terminal

/-- Neither the screen nor the keyboard ever fails. -/
structure Unfailing (t : Terminal) : Prop where
  prompts : t.prompts = none
  writes : t.writes = none

/-- The terminal after more has happened on it. -/
def logging (t : Terminal) (exchanges : List Exchange) : Terminal := { t with log := t.log ++ exchanges.toArray }

theorem logging_append (t : Terminal) (first second : List Exchange) :
    t.logging (first ++ second) = (t.logging first).logging second := by
  simp only [logging, ← List.append_toArray, Array.append_assoc]

variable {t : Terminal} (unfailing : t.Unfailing)
include unfailing

theorem Unfailing.logging (exchanges : List Exchange) : (t.logging exchanges).Unfailing :=
  ⟨unfailing.prompts, unfailing.writes⟩

theorem prompt?_of_unfailing : t.prompt? = some (t.logging [.prompt]) := by
  simp [prompt?, unfailing.prompts, Allowance.spend?, Terminal.logging]

theorem write?_of_unfailing (line : String) : t.write? line = some (t.logging [.wrote line]) := by
  simp [write?, unfailing.writes, Allowance.spend?, Terminal.logging]

theorem writeAll_of_unfailing (lines : List String) : t.writeAll lines = (t.logging (lines.map .wrote), true) := by
  induction lines generalizing t with
  | nil => simp [writeAll, Terminal.logging]
  | cons line rest ih =>
    rw [writeAll, write?_of_unfailing unfailing]
    simp only [ih (unfailing.logging _), ← logging_append]
    rfl

end Terminal

namespace Menu

section
variable [Likeness]

/-- What happens on the terminal where a line passes: the player is asked for it, and unless it is blank it
    is answered once. -/
inductive Echoes (m : Menu) (style : MenuStyle) (ctx : Option Context) (line : String) : List Exchange → Prop where
  | blank (empty : Text.trim line = "") : Echoes m style ctx line [.prompt]
  | rebuffed {rebuff : Rebuff} (filled : Text.trim line ≠ "") (reason : m.TurnsDown ctx line rebuff) :
      Echoes m style ctx line [.prompt, .wrote (rebuff.text style (ctx.any (·.hasNarrator)) m.rebuff)]

/-- The law of a menu in front of some lines: they pass up to the first that decides, which is carried out
    while the later ones stay unread; where none decides, all pass and the menu ends with the input. -/
inductive Settles (m : Menu) (style : MenuStyle) (ctx : Option Context) (scene : Affordances)
    (preferences : Preferences) (terminal : Terminal) : List String → Resolution → Prop where
  | decided {earlier later : List String} {line : String} {echoes : List (List Exchange)} {decision : Decision}
      (passed : List.Forall₂ (m.Echoes style ctx) earlier echoes)
      (undecided : ∀ other ∈ earlier, ∀ decision, ¬ m.Decides ctx other decision)
      (decides : m.Decides ctx line decision) :
      Settles m style ctx scene preferences terminal (earlier ++ line :: later) {
        result := .ok (decision.outcome scene)
        menu := decision.menu m
        preferences := (decision.response preferences).2
        unread := later
        terminal := terminal.logging (echoes.flatten ++ .prompt :: (decision.response preferences).1.map .wrote) }
  | closed {lines : List String} {echoes : List (List Exchange)}
      (passed : List.Forall₂ (m.Echoes style ctx) lines echoes)
      (undecided : ∀ other ∈ lines, ∀ decision, ¬ m.Decides ctx other decision) :
      Settles m style ctx scene preferences terminal lines {
        result := .error .inputClosed
        menu := m
        preferences := preferences
        unread := []
        terminal := terminal.logging (echoes.flatten ++ [.prompt]) }

variable {m : Menu} {style : MenuStyle} {ctx : Option Context} {scene : Affordances} {preferences : Preferences}
  {terminal : Terminal}

/-- A line more in front, which passes. -/
theorem Settles.cons {line : String} {rest : List String} {exchanges : List Exchange} {resolution : Resolution}
    (echo : m.Echoes style ctx line exchanges) (passes : ∀ decision, ¬ m.Decides ctx line decision)
    (settles : m.Settles style ctx scene preferences (terminal.logging exchanges) rest resolution) :
    m.Settles style ctx scene preferences terminal (line :: rest) resolution := by
  cases settles with
  | @decided earlier later decisive echoes decision passed undecided decides =>
    have law : m.Settles style ctx scene preferences terminal ((line :: earlier) ++ decisive :: later) _ :=
      .decided (passed.cons echo) (List.forall_mem_cons.mpr ⟨passes, undecided⟩) decides
    simpa [Terminal.logging_append, List.append_assoc] using law
  | @closed _ echoes passed undecided =>
    have law : m.Settles style ctx scene preferences terminal (line :: rest) _ :=
      .closed (passed.cons echo) (List.forall_mem_cons.mpr ⟨passes, undecided⟩)
    simpa [Terminal.logging_append, List.append_assoc] using law

private theorem await_decided (countable : ∀ c ∈ m.choices, c.picks.toNat < 0xFFFFFFFF) {line : String}
    {decision : Decision} (unfailing : terminal.Unfailing) (decides : m.Decides ctx line decision)
    (rest : List String) :
    m.await style ctx scene preferences (line :: rest) terminal = {
      result := .ok (decision.outcome scene)
      menu := decision.menu m
      preferences := (decision.response preferences).2
      unread := rest
      terminal := terminal.logging (.prompt :: (decision.response preferences).1.map .wrote) } := by
  rw [await_of_decides (Terminal.prompt?_of_unfailing unfailing) decides, Decision.resolution,
    result_of_countable countable decides, Terminal.writeAll_of_unfailing (unfailing.logging _),
    ← Terminal.logging_append]
  rfl

private theorem await_cases (unfailing : terminal.Unfailing) (line : String) (rest : List String) :
    (∃ exchanges, m.Echoes style ctx line exchanges ∧ (∀ decision, ¬ m.Decides ctx line decision) ∧
      m.await style ctx scene preferences (line :: rest) terminal =
        m.await style ctx scene preferences rest (terminal.logging exchanges)) ∨
      ∃ decision, m.Decides ctx line decision := by
  rcases m.reading_cases ctx line with ⟨blank, read⟩ | ⟨rebuff, reason, read⟩ | decides
  · refine .inl ⟨_, .blank blank, not_decides_of_reading (.inl read), ?_⟩
    rw [await, Terminal.prompt?_of_unfailing unfailing]
    simp only [read]
  · refine .inl ⟨_, .rebuffed (filled_of_turnsDown reason) reason, not_decides_of_reading (.inr ⟨rebuff, read⟩), ?_⟩
    rw [await, Terminal.prompt?_of_unfailing unfailing]
    simp only [read, Terminal.write?_of_unfailing (unfailing.logging _), ← Terminal.logging_append]
    rfl
  · exact .inr decides

/-- The law holds of the loop, in front of any lines. -/
theorem await_settles (countable : ∀ c ∈ m.choices, c.picks.toNat < 0xFFFFFFFF) (unfailing : terminal.Unfailing)
    (lines : List String) :
    m.Settles style ctx scene preferences terminal lines (m.await style ctx scene preferences lines terminal) := by
  induction lines generalizing terminal with
  | nil =>
    rw [await, Terminal.prompt?_of_unfailing unfailing]
    exact .closed .nil (by simp)
  | cons line rest ih =>
    rcases await_cases unfailing line rest with ⟨exchanges, echo, passes, same⟩ | ⟨decision, decides⟩
    · rw [same]
      exact (ih (unfailing.logging exchanges)).cons echo passes
    · rw [await_decided countable unfailing decides]
      exact .decided .nil (by simp) decides

end

section
variable [Likeness] {m : Menu} {style : MenuStyle} {ctx : Option Context} {scene : Affordances}
  {preferences : Preferences} {terminal : Terminal} {lines : List String} {resolution : Resolution}

private theorem Settles.decision (settles : m.Settles style ctx scene preferences terminal lines resolution) :
    (∃ line decision, m.Decides ctx line decision ∧ resolution.result = .ok (decision.outcome scene) ∧
        resolution.menu = decision.menu m) ∨
      resolution.result = .error .inputClosed ∧ resolution.menu = m := by
  cases settles with
  | decided passed undecided decides => exact .inl ⟨_, _, decides, rfl, rfl⟩
  | closed passed undecided => exact .inr ⟨rfl, rfl⟩

/-- Commands of the story come only of menus that take them. -/
theorem Settles.result_ne_command (settles : m.Settles style ctx scene preferences terminal lines resolution)
    (closed : m.exclusive = true ∨ ctx = none) (command : Command) (argument : String) (status : Status) :
    resolution.result ≠ .ok (.command command argument status) := by
  intro ended
  rcases settles.decision with ⟨line, decision, decides, result, _⟩ | ⟨result, _⟩
  · rw [result] at ended
    cases decides with
    | option number here => cases ended
    | @aboutGame request read game =>
      rcases Preferences.outcome_cases request with outcome | outcome <;> simp [Decision.outcome, outcome] at ended
    | aboutStory read game inclusive present => simp [inclusive, present] at closed
  · rw [result] at ended
    cases ended

/-- A menu changes only where an option is chosen. -/
theorem Settles.menu_eq (settles : m.Settles style ctx scene preferences terminal lines resolution)
    (other : ∀ id, resolution.result ≠ .ok (.option id)) : resolution.menu = m := by
  rcases settles.decision with ⟨line, decision, decides, result, menu⟩ | ⟨_, menu⟩
  · cases decision with
    | option choice => exact absurd result (other choice.id)
    | aboutGame request => exact menu
    | aboutStory request story => exact menu
  · exact menu

/-- The option that comes of a menu counts one pick more. -/
theorem Settles.picksOf_eq (settles : m.Settles style ctx scene preferences terminal lines resolution)
    (countable : ∀ c ∈ m.choices, c.picks.toNat < 0xFFFFFFFF) {id : String}
    (chosen : resolution.result = .ok (.option id)) (other : String) :
    (resolution.menu.picksOf other).toNat = (m.picksOf other).toNat + if other = id then 1 else 0 := by
  rcases settles.decision with ⟨line, decision, decides, result, menu⟩ | ⟨result, _⟩
  · rw [result] at chosen
    cases decides with
    | @option place choice number here =>
      obtain ⟨after, counted, counts⟩ := exists_counts (mem_of_place here) (picksOf_ne_of_countable countable choice.id)
      cases chosen
      rw [menu, Decision.menu, counted, Option.getD_some]
      exact counts.picksOf_eq other
    | @aboutGame request read game =>
      rcases Preferences.outcome_cases request with outcome | outcome <;> simp [Decision.outcome, outcome] at chosen
    | aboutStory read game inclusive present => cases chosen
  · rw [result] at chosen
    cases chosen

end

/-- On a terminal that never fails, a menu with an available option obeys its law after its options are
    written. A menu that is exclusive, about the game, or without a context never ends in a command of the
    story, and picks change only where an option is chosen, by one pick of that option. -/
theorem resolve_settles [Likeness] {m : Menu} {ctx : Option Context} {terminal : Terminal}
    (some_option : m.available (m.view ctx) ≠ []) (countable : ∀ c ∈ m.choices, c.picks.toNat < 0xFFFFFFFF)
    (unfailing : terminal.Unfailing) (style : MenuStyle) (scene : Affordances) (preferences : Preferences)
    (lines : List String) :
    let resolution := m.resolve style ctx scene preferences lines terminal
    m.Settles style (m.view ctx) scene preferences (terminal.logging ((m.lines (m.view ctx) style).map .wrote)) lines
        resolution ∧
      (m.exclusive = true ∨ m.isMeta = true ∨ ctx = none →
        ∀ command argument status, resolution.result ≠ .ok (.command command argument status)) ∧
      ((∀ id, resolution.result ≠ .ok (.option id)) → resolution.menu = m) ∧
      ∀ id, resolution.result = .ok (.option id) → ∀ other,
        (resolution.menu.picksOf other).toNat = (m.picksOf other).toNat + if other = id then 1 else 0 := by
  intro resolution
  have law : m.Settles style (m.view ctx) scene preferences
      (terminal.logging ((m.lines (m.view ctx) style).map .wrote)) lines resolution := by
    have shown : resolution = m.await style (m.view ctx) scene preferences lines
        (terminal.logging ((m.lines (m.view ctx) style).map .wrote)) := by
      simp [resolution, resolve, some_option, Terminal.writeAll_of_unfailing unfailing]
    rw [shown]
    exact await_settles countable (unfailing.logging _) lines
  refine ⟨law, fun closed => law.result_ne_command ?_, law.menu_eq, fun id => law.picksOf_eq countable⟩
  rcases closed with exclusive | game | absent
  · exact .inl exclusive
  · exact .inr (by simp [view, game])
  · exact .inr (by simp [view, absent])

/-- A blank line and a misspelled one pass, the second option is chosen, and the last line stays unread. -/
theorem resolve_settles_after_typo :
    let m : Menu := {
      choices := [{ id := "path", template := "Take the path." }, { id := "leave", template := "Turn back." }] }
    let resolution := m.resolve {} (some .opening) {} {} ["  ", "tak blade", " 2 ", "quit"] {}
    m.available (m.view (some .opening)) ≠ [] ∧ (∀ c ∈ m.choices, c.picks.toNat < 0xFFFFFFFF) ∧
      Terminal.Unfailing {} ∧ resolution.result = .ok (.option "leave") ∧ resolution.unread = ["quit"] ∧
      (resolution.menu.picksOf "leave").toNat = (m.picksOf "leave").toNat + 1 := by
  intro m resolution
  have some_option : m.available (m.view (some .opening)) ≠ [] := by decide +kernel
  have countable : ∀ c ∈ m.choices, c.picks.toNat < 0xFFFFFFFF := by decide +kernel
  have unfailing : Terminal.Unfailing {} := ⟨rfl, rfl⟩
  have law := resolve_settles some_option countable unfailing {} {} {} ["  ", "tak blade", " 2 ", "quit"]
  have chosen : resolution.result = .ok (.option "leave") := by decide +kernel
  have unread : resolution.unread = ["quit"] := by decide +kernel
  exact ⟨some_option, countable, unfailing, chosen, unread, law.2.2.2 "leave" chosen "leave"⟩

end Menu
end Narrative
