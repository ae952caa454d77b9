import Mathlib.Data.List.Basic
import Narrative.Proofs.Menu.Numbering
import Narrative.Shell.Likeness

/-!
What a call of a menu that fails leaves behind. Wherever the screen or the keyboard fails, or the input ends, the menu
is what it was, picks and all. The player's preferences change before the answer to the command is written, so they
are what they were unless just this answer cannot be written (`failure_of_resolve`).
-/
namespace Narrative

/-- A request that changes the preferences of the player. -/
def Request.ChangesPreferences (request : Request) : Prop :=
  request.canonical = .toggle ∨ request.canonical = .reset

theorem Preferences.respond_of_other {request : Request} (other : ¬ request.ChangesPreferences) (p : Preferences) :
    (p.respond request.canonical request.argument).2 = p := by
  rw [Request.ChangesPreferences, not_or] at other
  cases command : request.canonical with
  | toggle => exact absurd command other.1
  | reset => exact absurd command other.2
  | help | showInfo =>
    simp only [respond]
    split <;> rfl
  | _ => rfl

/-- A terminal that has not written all of some lines writes nothing more. -/
theorem Terminal.write?_of_writeAll {t : Terminal} {lines : List String} (failed : (t.writeAll lines).2 = false)
    (line : String) : (t.writeAll lines).1.write? line = none := by
  induction lines generalizing t with
  | nil => simp [writeAll] at failed
  | cons first rest ih =>
    cases written : t.write? first with
    | some next =>
      simp only [writeAll, written] at failed ⊢
      exact ih failed
    | none =>
      simp only [writeAll, written]
      -- What is written does not matter to whether it is written.
      simpa [write?] using written

namespace Menu

private theorem eq_of_unread {line final : String} {rest earlier : List String}
    (split : line :: rest = earlier ++ final :: rest) : earlier = [] ∧ line = final := by
  cases earlier with
  | nil => exact ⟨rfl, (List.cons.inj split).1⟩
  | cons first earlier =>
    have longer := congrArg List.length split
    simp only [List.length_cons, List.length_append] at longer
    omega

section
variable [Likeness]

/-- What is left behind of a call that fails, in front of some lines. -/
inductive Failure (m : Menu) (ctx : Option Context) (preferences : Preferences) (lines : List String)
    (resolution : Resolution) : Prop where
  /-- The last line that was read, if any, is no command that changes the preferences; nothing has changed. -/
  | idle (menu : resolution.menu = m) (kept : resolution.preferences = preferences)
      (last : ∀ earlier line request, lines = earlier ++ line :: resolution.unread →
        m.Decides ctx line (.aboutGame request) → ¬ request.ChangesPreferences) :
      Failure m ctx preferences lines resolution
  /-- It is such a command, and the screen fails to show its answer; the preferences have changed. -/
  | unanswered {earlier : List String} {line : String} {request : Request} (menu : resolution.menu = m)
      (last : lines = earlier ++ line :: resolution.unread) (decides : m.Decides ctx line (.aboutGame request))
      (changes : request.ChangesPreferences)
      (changed : resolution.preferences = (preferences.respond request.canonical request.argument).2)
      (fault : resolution.result = .error .deviceFailed) (silent : ∀ text, resolution.terminal.write? text = none) :
      Failure m ctx preferences lines resolution

variable {m : Menu} {style : MenuStyle} {ctx : Option Context} {scene : Affordances} {preferences : Preferences}

theorem Decides.request_unique {line : String} {request other : Request}
    (first : m.Decides ctx line (.aboutGame request)) (second : m.Decides ctx line (.aboutGame other)) :
    request = other := by
  have same : Decision.reading m (.aboutGame request) = Decision.reading m (.aboutGame other) := by
    rw [← reading_of_decides first, reading_of_decides second]
  exact Reading.aboutGame.inj same

/-- No line decides for an option and for a command. -/
theorem Decides.ne_option {line : String} {request : Request} {choice : Choice}
    (game : m.Decides ctx line (.aboutGame request)) : ¬ m.Decides ctx line (.option choice) := by
  intro chosen
  have same : Decision.reading m (.aboutGame request) = Decision.reading m (.option choice) := by
    rw [← reading_of_decides game, reading_of_decides chosen]
  cases counted : m.counting? choice.id <;> simp [Decision.reading, counted] at same

theorem Failure.of_unread {lines : List String} {resolution : Resolution} (menu : resolution.menu = m)
    (kept : resolution.preferences = preferences) (unread : resolution.unread = lines) :
    m.Failure ctx preferences lines resolution := by
  refine .idle menu kept fun earlier line request split => ?_
  rw [unread] at split
  have longer := congrArg List.length split
  simp at longer
  omega

/-- One line more in front, which passes. -/
theorem Failure.cons {line : String} {rest : List String} {resolution : Resolution}
    (passes : ∀ decision, ¬ m.Decides ctx line decision) (failure : m.Failure ctx preferences rest resolution) :
    m.Failure ctx preferences (line :: rest) resolution := by
  cases failure with
  | idle menu kept last =>
    refine .idle menu kept fun earlier final request split decides => ?_
    cases earlier with
    | nil =>
      obtain ⟨rfl, _⟩ := List.cons.inj split
      exact absurd decides (passes _)
    | cons first earlier => exact last earlier final request (List.cons.inj split).2 decides
  | @unanswered earlier final request menu last decides changes changed fault silent =>
    have longer : line :: rest = (line :: earlier) ++ final :: resolution.unread := by rw [last, List.cons_append]
    exact .unanswered menu longer decides changes changed fault silent

/-- Of the decisions only a command about the game can fail, and an option whose count is full. -/
theorem Failure.of_decides {line : String} {rest : List String} {decision : Decision} {asked : Terminal}
    (decides : m.Decides ctx line decision) {fault : MenuFault}
    (failed : (decision.resolution m scene preferences rest asked).result = .error fault) :
    m.Failure ctx preferences (line :: rest) (decision.resolution m scene preferences rest asked) := by
  rcases decision.result_cases m scene with result | ⟨choice, rfl, kept, _⟩
  · have unwritten : (asked.writeAll (decision.response preferences).1).2 = false := by
      cases written : (asked.writeAll (decision.response preferences).1).2 with
      | false => rfl
      | true => simp [Decision.resolution, written, result] at failed
    cases decision with
    | option choice => cases unwritten
    | aboutStory request story => cases unwritten
    | aboutGame request =>
      by_cases changes : request.ChangesPreferences
      · have last : line :: rest = [] ++ line :: rest := rfl
        refine .unanswered rfl last decides changes rfl ?_ (Terminal.write?_of_writeAll unwritten)
        simp [Decision.resolution, unwritten]
      · refine .idle rfl (Preferences.respond_of_other changes preferences) fun earlier final other split read => ?_
        obtain ⟨rfl, rfl⟩ := eq_of_unread split
        rwa [← decides.request_unique read]
  · refine .idle kept rfl fun earlier final request split game => ?_
    obtain ⟨rfl, rfl⟩ := eq_of_unread split
    exact absurd decides game.ne_option

theorem failure_of_await {lines : List String} {terminal : Terminal} {fault : MenuFault}
    (failed : (m.await style ctx scene preferences lines terminal).result = .error fault) :
    m.Failure ctx preferences lines (m.await style ctx scene preferences lines terminal) := by
  -- On the lines: one that passes changes neither the menu nor the preferences, so what the later ones leave behind is
  -- left behind by all.
  induction lines generalizing terminal with
  | nil =>
    rw [await]
    split <;> exact .of_unread rfl rfl rfl
  | cons line rest ih =>
    cases m.takes style ctx scene preferences line terminal with
    | unasked taken =>
      rw [taken]
      exact .of_unread rfl rfl rfl
    | untold asked passes taken =>
      rw [taken]
      exact .cons passes (.of_unread rfl rfl rfl)
    | passed next passes taken =>
      rw [taken] at failed ⊢
      exact (ih failed).cons passes
    | decided decides taken =>
      rw [taken] at failed ⊢
      exact .of_decides decides failed

end

/-- A call of a menu that fails leaves the menu as it was, and the preferences too unless the answer to a command that
    changes them cannot be written; then they are as the command sets them. -/
theorem failure_of_resolve [Likeness] {m : Menu} {style : MenuStyle} {ctx : Option Context} {scene : Affordances}
    {preferences : Preferences} {lines : List String} {terminal : Terminal} {fault : MenuFault}
    (failed : (m.resolve style ctx scene preferences lines terminal).result = .error fault) :
    m.Failure (m.view ctx) preferences lines (m.resolve style ctx scene preferences lines terminal) := by
  rcases m.resolve_begins style ctx scene preferences terminal with ⟨written, waits⟩ | ⟨_, after, _, ends⟩
  · rw [waits] at failed ⊢
    exact failure_of_await failed
  · rw [ends]
    exact .of_unread rfl rfl rfl

/-- The player is asked for a second line in vain, after a first one that was turned down. -/
theorem failure_of_dead_keyboard :
    let m : Menu := { choices := [{ id := "path", template := "Take the path." }] }
    let preferences : Preferences := { audio := false }
    let resolution := m.resolve {} none {} preferences ["dance", "toggle audio"] { prompts := some 1 }
    resolution.result = .error .deviceFailed ∧
      m.Failure (m.view none) preferences ["dance", "toggle audio"] resolution ∧
      resolution.preferences = preferences ∧ resolution.unread = ["toggle audio"] := by
  intro m preferences resolution
  have failed : resolution.result = .error .deviceFailed := by decide +kernel
  exact ⟨failed, failure_of_resolve failed, by decide +kernel, by decide +kernel⟩

/-- Not every call that fails leaves the preferences as they were: the audio is off, although the screen fails to show
    the answer. -/
theorem not_kept_of_dead_screen :
    let m : Menu := { choices := [{ id := "path", template := "Take the path." }] }
    let resolution := m.resolve {} none {} {} ["toggle audio"] { writes := some 1 }
    resolution.result = .error .deviceFailed ∧ resolution.preferences = { audio := false } ∧
      resolution.preferences ≠ {} := by
  decide +kernel

end Menu
end Narrative
