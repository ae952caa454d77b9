import Mathlib.Data.List.Forall2
import Narrative.Proofs.Command.Canonical
import Narrative.Proofs.Menu.Decision
import Narrative.Shell.Likeness

/-!
Synonymous lines. Lines that call the same command with the same argument, in canonical form, decide a menu alike or are
turned down alike (`Menu.readings_of_synonymous`): nothing looks at the form in which a request was written. So where
lines are replaced by synonyms, a call of the menu reads as many of them and leaves the same behind
(`Menu.resolve_rephrased`).
-/
namespace Narrative

namespace Request

/-- Two inputs that call the same command with the same argument. -/
def Synonymous [Likeness] (input other : String) : Prop :=
  ∃ command argument, Calls input command argument ∧ Calls other command argument

/-- Two requests for the same command with the same argument, in whatever form. -/
structure Same (request other : Request) : Prop where
  command : other.canonical = request.canonical
  argument : other.argument = request.argument

theorem exists_same [Likeness] {line other : String} (synonymous : Synonymous line other) :
    ∃ request request', read (Text.trim line) = .ok request ∧ read (Text.trim other) = .ok request' ∧
      request.Same request' := by
  obtain ⟨_, _, ⟨request, written, rfl, rfl⟩, ⟨request', written', command, argument⟩⟩ := synonymous
  exact ⟨request, request', (read_trim line).trans written, (read_trim other).trans written', command, argument⟩

theorem isMeta_canonical (request : Request) : request.canonical.isMeta = request.isMeta := by
  rw [canonical, isMeta]
  cases request.command <;> rfl

theorem Same.isMeta {request other : Request} (same : request.Same other) : other.isMeta = request.isMeta := by
  rw [← isMeta_canonical, same.command, isMeta_canonical]

end Request

/-- Two decisions by which a menu comes to the same. -/
structure Decision.Alike (decision other : Decision) : Prop where
  menu : ∀ m, other.menu m = decision.menu m
  result : ∀ m scene, other.result m scene = decision.result m scene
  response : ∀ preferences, other.response preferences = decision.response preferences

namespace Decision

theorem Alike.refl (decision : Decision) : decision.Alike decision := ⟨fun _ => rfl, fun _ _ => rfl, fun _ => rfl⟩

theorem alike_of_game {request other : Request} (same : request.Same other) :
    (aboutGame request).Alike (aboutGame other) where
  menu _ := rfl
  result _ _ := by simp only [result, outcome, Preferences.outcome, same.command]
  response _ := by simp only [response, same.command, same.argument]

theorem alike_of_story {request other : Request} (same : request.Same other) (ctx : Context) :
    (aboutStory request ctx).Alike (aboutStory other ctx) where
  menu _ := rfl
  result _ _ := by
    simp only [result, outcome, Affordances.outcome, Affordances.status, same.command, same.argument]
  response _ := rfl

end Decision

namespace Menu

/-- A line that is kept, or replaced by a synonym. -/
def Rephrases [Likeness] (line other : String) : Prop := line = other ∨ Request.Synonymous line other

/-- Synonymous lines decide a menu alike or are turned down alike. -/
theorem readings_of_synonymous [Likeness] {line other : String} (synonymous : Request.Synonymous line other)
    (m : Menu) (ctx : Option Context) :
    (∃ rebuff, m.TurnsDown ctx line rebuff ∧ m.TurnsDown ctx other rebuff) ∨
      ∃ decision decision', m.Decides ctx line decision ∧ m.Decides ctx other decision' ∧ decision.Alike decision' := by
  obtain ⟨request, request', read, read', same⟩ := Request.exists_same synonymous
  cases game : request.isMeta with
  | true =>
    exact .inr ⟨_, _, .aboutGame read game, .aboutGame read' (same.isMeta.trans game), Decision.alike_of_game same⟩
  | false =>
    have game' : request'.isMeta = false := same.isMeta.trans game
    have closed_down : m.exclusive = true ∨ ctx = none →
        ∃ rebuff, m.TurnsDown ctx line rebuff ∧ m.TurnsDown ctx other rebuff := by
      intro closed
      exact ⟨_, .unavailable read game closed, same.command ▸ .unavailable read' game' closed⟩
    cases exclusive : m.exclusive with
    | true => exact .inl (closed_down (.inl exclusive))
    | false =>
      cases present : ctx with
      | none => exact .inl (present ▸ closed_down (.inr present))
      | some story =>
        exact .inr ⟨_, _, .aboutStory read game exclusive rfl, .aboutStory read' game' exclusive rfl,
          Decision.alike_of_story same story⟩

/-- A line and one that rephrases it pass alike or decide alike. -/
theorem readings_of_rephrases [Likeness] {line other : String} (rephrases : Rephrases line other) (m : Menu)
    (ctx : Option Context) :
    (m.reading ctx line = .blank ∧ m.reading ctx other = .blank) ∨
      (∃ rebuff, m.reading ctx line = .rebuffed rebuff ∧ m.reading ctx other = .rebuffed rebuff) ∨
      ∃ decision decision', m.Decides ctx line decision ∧ m.Decides ctx other decision' ∧ decision.Alike decision' := by
  rcases rephrases with rfl | synonymous
  · rcases m.reading_cases ctx line with ⟨_, read⟩ | ⟨rebuff, _, read⟩ | ⟨decision, decides⟩
    · exact .inl ⟨read, read⟩
    · exact .inr (.inl ⟨rebuff, read, read⟩)
    · exact .inr (.inr ⟨decision, decision, decides, decides, .refl decision⟩)
  · rcases readings_of_synonymous synonymous m ctx with ⟨rebuff, reason, reason'⟩ | decisions
    · exact .inr (.inl ⟨rebuff, reading_of_turnsDown reason, reading_of_turnsDown reason'⟩)
    · exact .inr (.inr decisions)

/-- What is left behind in front of some lines and in front of others is the same, and as many of them are read. -/
structure EndsAlike (lines others : List String) (resolution other : Resolution) : Prop where
  result : other.result = resolution.result
  menu : other.menu = resolution.menu
  preferences : other.preferences = resolution.preferences
  terminal : other.terminal = resolution.terminal
  unread : ∃ count ≤ lines.length, resolution.unread = lines.drop count ∧ other.unread = others.drop count

section
variable {lines others : List String} {line other : String}

theorem EndsAlike.of_unread (result : Except MenuFault Outcome) (m : Menu) (preferences : Preferences)
    (terminal : Terminal) : EndsAlike lines others ⟨result, m, preferences, lines, terminal⟩
      ⟨result, m, preferences, others, terminal⟩ :=
  ⟨rfl, rfl, rfl, rfl, 0, Nat.zero_le _, rfl, rfl⟩

/-- One more line in front, which is read. -/
theorem EndsAlike.cons {resolution resolution' : Resolution} (alike : EndsAlike lines others resolution resolution') :
    EndsAlike (line :: lines) (other :: others) resolution resolution' := by
  obtain ⟨result, menu, preferences, terminal, count, inside, unread, unread'⟩ := alike
  exact ⟨result, menu, preferences, terminal, count + 1, Nat.succ_le_succ inside, unread, unread'⟩

theorem EndsAlike.of_alike {decision decision' : Decision} (alike : decision.Alike decision') (m : Menu)
    (scene : Affordances) (preferences : Preferences) (terminal : Terminal) :
    EndsAlike lines others (decision.resolution m scene preferences lines terminal)
      (decision'.resolution m scene preferences others terminal) where
  result := by simp only [Decision.resolution, alike.response, alike.result]
  menu := alike.menu m
  preferences := by simp only [Decision.resolution, alike.response]
  terminal := by simp only [Decision.resolution, alike.response]
  unread := ⟨0, Nat.zero_le _, rfl, rfl⟩

theorem await_rephrased [Likeness] (rephrased : List.Forall₂ Rephrases lines others) (m : Menu) (style : MenuStyle)
    (ctx : Option Context) (scene : Affordances) (preferences : Preferences) (terminal : Terminal) :
    EndsAlike lines others (m.await style ctx scene preferences lines terminal)
      (m.await style ctx scene preferences others terminal) := by
  induction rephrased generalizing terminal with
  | nil =>
    rw [await]
    split <;> exact .of_unread _ _ _ _
  | @cons line other lines others rephrases _ ih =>
    cases prompted : terminal.prompt? with
    | none =>
      simp only [await, prompted]
      exact .of_unread _ _ _ _
    | some asked =>
      rcases readings_of_rephrases rephrases m ctx with ⟨read, read'⟩ | ⟨rebuff, read, read'⟩ | decisions
      · simp only [await, prompted, read, read']
        exact (ih asked).cons
      · simp only [await, prompted, read, read']
        cases answered : asked.write? (rebuff.text style (ctx.any (·.hasNarrator)) m.rebuff) with
        | some next => exact (ih next).cons
        | none => exact (EndsAlike.of_unread _ _ _ _).cons
      · obtain ⟨decision, decision', decides, decides', alike⟩ := decisions
        rw [await_of_decides prompted decides, await_of_decides prompted decides']
        exact (EndsAlike.of_alike alike m scene preferences asked).cons

end

/-- Where lines are replaced by synonyms, a call of a menu ends as before: with the same outcome or fault, the same
    menu with its picks, the same preferences and the same terminal with all that was written on it, after as many
    lines. -/
theorem resolve_rephrased [Likeness] {lines others : List String} (rephrased : List.Forall₂ Rephrases lines others)
    (m : Menu) (style : MenuStyle) (ctx : Option Context) (scene : Affordances) (preferences : Preferences)
    (terminal : Terminal) :
    EndsAlike lines others (m.resolve style ctx scene preferences lines terminal)
      (m.resolve style ctx scene preferences others terminal) := by
  rcases m.resolve_begins style ctx scene preferences terminal with ⟨written, waits⟩ | ⟨fault, after, _, ends⟩
  · rw [waits, waits]
    exact await_rephrased rephrased m style (m.view ctx) scene preferences written
  · rw [ends, ends]
    exact .of_unread _ _ _ _

/-- An exclusive menu turns down a direction by itself as it turns down the same one behind a verb, and then restores
    the preferences. -/
theorem resolve_rephrased_of_outside :
    let m : Menu := { choices := [{ id := "path", template := "Take the path." }], exclusive := true }
    let lines := ["OUTSIDE", "reset settings", "1"]
    let others := ["walk out", "reset  Settings", "1"]
    let resolution := m.resolve {} (some .opening) {} { audio := false } lines {}
    List.Forall₂ Rephrases lines others ∧ resolution.preferences = {} ∧ resolution.unread = ["1"] ∧
      EndsAlike lines others resolution (m.resolve {} (some .opening) {} { audio := false } others {}) := by
  intro m lines others resolution
  have direction : Request.Synonymous "OUTSIDE" "walk out" :=
    ⟨.go, "out", ⟨⟨.directGo, "out"⟩, by decide +kernel, rfl, rfl⟩, ⟨⟨.go, "out"⟩, by decide +kernel, rfl, rfl⟩⟩
  have reset : Request.Synonymous "reset settings" "reset  Settings" :=
    ⟨.reset, "settings", ⟨⟨.reset, "settings"⟩, by decide +kernel, rfl, rfl⟩,
      ⟨⟨.reset, "settings"⟩, by decide +kernel, rfl, rfl⟩⟩
  have rephrased : List.Forall₂ Rephrases lines others :=
    .cons (.inr direction) (.cons (.inr reset) (.cons (.inl rfl) .nil))
  exact ⟨rephrased, by decide +kernel, by decide +kernel, resolve_rephrased rephrased m {} (some .opening) {} _ {}⟩

end Menu
end Narrative
