import Narrative.Menu.Session
import Narrative.Proofs.Command.Numerals
import Narrative.Proofs.Menu.Picks

/-!
Which lines decide a menu, and how the others pass. A line decides by the number of an option, by a command
about the game, or by a command of the story where such commands count (`Menu.Decides`); any other line that is
not blank is turned down, for one of three reasons (`Menu.TurnsDown`). Every line does exactly one of these
things (`Menu.reading_cases`, `Menu.reading_of_decides`). What a call makes of one line, whatever the terminal does
and whatever lines follow, is said once (`Menu.takes`, `Menu.resolve_begins`); what holds of whole calls follows by
induction on the lines.
-/
namespace Narrative

/-- What a line decides. -/
inductive Decision where
  | option (choice : Choice)
  | aboutGame (request : Request)
  | aboutStory (request : Request) (ctx : Context)

/-- A command about the game ends a menu or has it shown again. -/
theorem Preferences.outcome_cases (request : Request) :
    Preferences.outcome request = .quit ∨ Preferences.outcome request = .metaDone := by
  unfold Preferences.outcome
  split
  · exact .inl rfl
  · exact .inr rfl

namespace Menu
variable [Likeness]

/-- The lines that decide a menu, blanks at their ends aside. -/
inductive Decides (m : Menu) (ctx : Option Context) (line : String) : Decision → Prop where
  | option {place : Nat} {choice : Choice} (number : Number.integer? (Text.trim line) = some (place + 1))
      (here : (m.available ctx)[place]? = some choice) : Decides m ctx line (.option choice)
  | aboutGame {request : Request} (read : Request.read (Text.trim line) = .ok request)
      (game : request.isMeta = true) : Decides m ctx line (.aboutGame request)
  | aboutStory {request : Request} {story : Context} (read : Request.read (Text.trim line) = .ok request)
      (game : request.isMeta = false) (inclusive : m.exclusive = false) (present : ctx = some story) :
      Decides m ctx line (.aboutStory request story)

/-- The lines that a menu turns down, and why: a number that no available option carries, words that are no
    command, or a command of the story where none counts. -/
inductive TurnsDown (m : Menu) (ctx : Option Context) (line : String) : Rebuff → Prop where
  | outOfRange {n : Int} (number : Number.integer? (Text.trim line) = some n)
      (outside : n < 1 ∨ (m.available ctx).length < n) : TurnsDown m ctx line (.outOfRange n (m.available ctx).length)
  | unrecognized {misread : Misread} (filled : Text.trim line ≠ "") (words : Number.integer? (Text.trim line) = none)
      (read : Request.read (Text.trim line) = .error misread) : TurnsDown m ctx line (.unrecognized misread)
  | unavailable {request : Request} (read : Request.read (Text.trim line) = .ok request)
      (game : request.isMeta = false) (closed : m.exclusive = true ∨ ctx = none) :
      TurnsDown m ctx line (.unavailable request.canonical)

end Menu

namespace Decision

/-- The menu after a decision: an option that is chosen counts a pick if there is room for it. -/
def menu (m : Menu) : Decision → Menu
  | option choice => (m.counting? choice.id).getD m
  | _ => m

/-- What comes of a menu by a decision. -/
def outcome (scene : Affordances) : Decision → Outcome
  | option choice => .option choice.id
  | aboutGame request => Preferences.outcome request
  | aboutStory request ctx => scene.outcome request ctx

/-- What a decision comes to: a pick for which there is no room stops the program. -/
def result (m : Menu) (scene : Affordances) : Decision → Except MenuFault Outcome
  | option choice => if (m.counting? choice.id).isSome then .ok (.option choice.id) else .error .overflow
  | decision => .ok (decision.outcome scene)

/-- What a decision writes, and the preferences after it. -/
def response (preferences : Preferences) : Decision → List String × Preferences
  | aboutGame request => preferences.respond request.canonical request.argument
  | _ => ([], preferences)

/-- A decision as it is carried out, which fails where what it writes cannot be written. -/
def resolution (m : Menu) (scene : Affordances) (preferences : Preferences) (unread : List String)
    (terminal : Terminal) (decision : Decision) : Resolution where
  result :=
    if (terminal.writeAll (decision.response preferences).1).2 then decision.result m scene else .error .deviceFailed
  menu := decision.menu m
  preferences := (decision.response preferences).2
  unread := unread
  terminal := (terminal.writeAll (decision.response preferences).1).1

/-- What a menu makes of a line that decides it. -/
def reading (m : Menu) : Decision → Reading
  | option choice => (m.counting? choice.id).elim .overflow (.chosen choice.id)
  | aboutGame request => .aboutGame request
  | aboutStory request ctx => .aboutStory request ctx

/-- A decision comes to its outcome, unless there is no room to count a pick; then the menu is as it was. -/
theorem result_cases (m : Menu) (scene : Affordances) (decision : Decision) :
    decision.result m scene = .ok (decision.outcome scene) ∨
      ∃ choice, decision = option choice ∧ decision.menu m = m ∧ decision.result m scene = .error .overflow := by
  cases decision with
  | option choice =>
    cases counted : m.counting? choice.id with
    | some after => exact .inl (by simp [result, counted, outcome])
    | none => exact .inr ⟨choice, rfl, by simp [menu, counted], by simp [result, counted]⟩
  | aboutGame request => exact .inl rfl
  | aboutStory request ctx => exact .inl rfl

end Decision

namespace Menu

private theorem filled_of_integer {s : String} {n : Int} (number : Number.integer? s = some n) : s ≠ "" := by
  rintro rfl
  exact (numerals_of_integer number).1 rfl

theorem mem_of_place {m : Menu} {ctx : Option Context} {place : Nat} {choice : Choice}
    (here : (m.available ctx)[place]? = some choice) : choice ∈ m.choices :=
  List.mem_of_mem_filter (List.mem_of_getElem? here)

theorem choose_of_place {m : Menu} {ctx : Option Context} {place : Nat} {choice : Choice}
    (here : (m.available ctx)[place]? = some choice) :
    m.choose ((place : Int) + 1) ctx = (m.counting? choice.id).elim .overflow (.counted choice.id) := by
  have positive : ¬ ((place : Int) + 1 < 1) := by omega
  simp only [choose, positive, if_false, Int.toNat_natCast_add_one, Nat.add_sub_cancel, here]
  cases m.counting? choice.id <;> rfl

/-- A number is that of an available option, or chooses nothing. -/
theorem choose_cases (m : Menu) (ctx : Option Context) (n : Int) :
    (∃ (place : Nat) (choice : Choice), n = (place : Int) + 1 ∧ (m.available ctx)[place]? = some choice) ∨
      ((n < 1 ∨ (m.available ctx).length < n) ∧ m.choose n ctx = .refused) := by
  by_cases low : n < 1
  · exact .inr ⟨.inl low, by simp [choose, low]⟩
  · cases here : (m.available ctx)[n.toNat - 1]? with
    | some choice => exact .inl ⟨n.toNat - 1, choice, by omega, here⟩
    | none =>
      have outside := List.getElem?_eq_none_iff.mp here
      exact .inr ⟨.inr (by omega), by simp [choose, low, here]⟩

variable [Likeness]

private theorem words_of_read {s : String} {request : Request} (read : Request.read s = .ok request) :
    Number.integer? s = none := by
  cases number : Number.integer? s with
  | none => rfl
  | some n =>
    obtain ⟨misread, failed⟩ := Request.read_of_integer number
    rw [failed] at read
    cases read

private theorem filled_of_read {s : String} {request : Request} (read : Request.read s = .ok request) : s ≠ "" := by
  rintro rfl
  cases read

theorem filled_of_turnsDown {m : Menu} {ctx : Option Context} {line : String} {rebuff : Rebuff}
    (reason : m.TurnsDown ctx line rebuff) : Text.trim line ≠ "" := by
  cases reason with
  | outOfRange number _ => exact filled_of_integer number
  | unrecognized filled _ _ => exact filled
  | unavailable read _ _ => exact filled_of_read read

/-- An option is chosen where the count of its id has room. -/
theorem result_of_room {m : Menu} {ctx : Option Context} {line : String} {choice : Choice}
    (decides : m.Decides ctx line (.option choice)) (room : m.picksOf choice.id ≠ 0xFFFFFFFF) (scene : Affordances) :
    (Decision.option choice).result m scene = .ok (.option choice.id) := by
  cases decides with
  | option number here =>
    obtain ⟨after, counted, _⟩ := exists_counts (mem_of_place here) room
    simp [Decision.result, counted]

/-- Where no count is full, decisions come to their outcomes. -/
theorem result_of_countable {m : Menu} (countable : ∀ c ∈ m.choices, c.picks.toNat < 0xFFFFFFFF)
    {ctx : Option Context} {line : String} {decision : Decision} (decides : m.Decides ctx line decision)
    (scene : Affordances) : decision.result m scene = .ok (decision.outcome scene) := by
  cases decision with
  | option choice => exact result_of_room decides (picksOf_ne_of_countable countable choice.id) scene
  | aboutGame request => rfl
  | aboutStory request story => rfl

theorem reading_of_decides {m : Menu} {ctx : Option Context} {line : String} {decision : Decision}
    (decides : m.Decides ctx line decision) : m.reading ctx line = decision.reading m := by
  cases decides with
  | @option place choice number here =>
    have chosen := choose_of_place here
    cases counted : m.counting? choice.id <;> rw [counted] at chosen <;>
      simp [reading, filled_of_integer number, number, chosen, Decision.reading, counted]
  | aboutGame read game =>
    simp [reading, filled_of_read read, words_of_read read, read, game, Decision.reading]
  | aboutStory read game inclusive present =>
    simp [reading, filled_of_read read, words_of_read read, read, game, inclusive, present, Decision.reading]

theorem reading_of_turnsDown {m : Menu} {ctx : Option Context} {line : String} {rebuff : Rebuff}
    (reason : m.TurnsDown ctx line rebuff) : m.reading ctx line = .rebuffed rebuff := by
  have filled := filled_of_turnsDown reason
  cases reason with
  | @outOfRange n number outside =>
    rcases choose_cases m ctx n with ⟨place, choice, rfl, here⟩ | ⟨_, none_chosen⟩
    · have inside := (List.getElem?_eq_some_iff.mp here).1
      omega
    · simp [reading, filled, number, none_chosen]
  | @unrecognized misread _ words read =>
    cases misread with
    | empty => exact absurd read (Request.read_trim_ne_empty filled)
    | _ => simp [reading, filled, words, read]
  | unavailable read game closed =>
    rcases closed with exclusive | absent
    · simp [reading, filled, words_of_read read, read, game, exclusive]
    · cases exclusive : m.exclusive <;> simp [reading, filled, words_of_read read, read, game, exclusive, absent]

/-- Every line is blank, or turned down, or decides. -/
theorem reading_cases (m : Menu) (ctx : Option Context) (line : String) :
    (Text.trim line = "" ∧ m.reading ctx line = .blank) ∨
      (∃ rebuff, m.TurnsDown ctx line rebuff ∧ m.reading ctx line = .rebuffed rebuff) ∨
      ∃ decision, m.Decides ctx line decision := by
  have down : ∀ {rebuff}, m.TurnsDown ctx line rebuff →
      ∃ rebuff, m.TurnsDown ctx line rebuff ∧ m.reading ctx line = .rebuffed rebuff :=
    fun reason => ⟨_, reason, reading_of_turnsDown reason⟩
  by_cases blank : Text.trim line = ""
  · exact .inl ⟨blank, by simp [reading, blank]⟩
  refine .inr ?_
  cases number : Number.integer? (Text.trim line) with
  | some n =>
    rcases choose_cases m ctx n with ⟨place, choice, rfl, here⟩ | ⟨outside, _⟩
    · exact .inr ⟨_, .option number here⟩
    · exact .inl (down (.outOfRange number outside))
  | none =>
    cases read : Request.read (Text.trim line) with
    | error misread => exact .inl (down (.unrecognized blank number read))
    | ok request =>
      cases game : request.isMeta with
      | true => exact .inr ⟨_, .aboutGame read game⟩
      | false =>
        cases exclusive : m.exclusive with
        | true => exact .inl (down (.unavailable read game (.inl exclusive)))
        | false =>
          cases present : ctx with
          | none => exact .inl (present ▸ down (.unavailable read game (.inr present)))
          | some story => exact .inr ⟨_, .aboutStory read game exclusive rfl⟩

theorem not_decides_of_reading {m : Menu} {ctx : Option Context} {line : String}
    (passing : m.reading ctx line = .blank ∨ ∃ rebuff, m.reading ctx line = .rebuffed rebuff) (decision : Decision) :
    ¬ m.Decides ctx line decision := by
  intro decides
  rw [reading_of_decides decides] at passing
  cases decision with
  | option choice =>
    simp only [Decision.reading] at passing
    cases counted : m.counting? choice.id <;> simp [counted] at passing
  | aboutGame request => simp [Decision.reading] at passing
  | aboutStory request story => simp [Decision.reading] at passing

theorem await_of_decides {m : Menu} {style : MenuStyle} {ctx : Option Context} {scene : Affordances}
    {preferences : Preferences} {line : String} {terminal asked : Terminal} {decision : Decision}
    (prompted : terminal.prompt? = some asked) (decides : m.Decides ctx line decision) (rest : List String) :
    m.await style ctx scene preferences (line :: rest) terminal =
      decision.resolution m scene preferences rest asked := by
  rw [await, prompted]
  simp only [reading_of_decides decides]
  cases decision with
  | option choice =>
    simp only [Decision.reading, Decision.resolution, Decision.response, Decision.result, Decision.menu]
    cases m.counting? choice.id <;> rfl
  | aboutGame request => rfl
  | aboutStory request story => rfl

/-- What a menu that waits makes of its next line, whatever follows it. -/
inductive Takes (m : Menu) (style : MenuStyle) (ctx : Option Context) (scene : Affordances)
    (preferences : Preferences) (line : String) (terminal : Terminal) : Prop where
  /-- The player cannot be asked for it. -/
  | unasked (taken : ∀ rest, m.await style ctx scene preferences (line :: rest) terminal =
      ⟨.error .deviceFailed, m, preferences, line :: rest, terminal⟩) : Takes ..
  /-- It is turned down, but the player cannot be told. -/
  | untold (asked : Terminal) (passes : ∀ decision, ¬ m.Decides ctx line decision)
      (taken : ∀ rest, m.await style ctx scene preferences (line :: rest) terminal =
        ⟨.error .deviceFailed, m, preferences, rest, asked⟩) : Takes ..
  /-- It passes, and the menu waits for the line after it. -/
  | passed (next : Terminal) (passes : ∀ decision, ¬ m.Decides ctx line decision)
      (taken : ∀ rest, m.await style ctx scene preferences (line :: rest) terminal =
        m.await style ctx scene preferences rest next) : Takes ..
  /-- It decides. -/
  | decided {asked : Terminal} {decision : Decision} (decides : m.Decides ctx line decision)
      (taken : ∀ rest, m.await style ctx scene preferences (line :: rest) terminal =
        decision.resolution m scene preferences rest asked) : Takes ..

theorem takes (m : Menu) (style : MenuStyle) (ctx : Option Context) (scene : Affordances) (preferences : Preferences)
    (line : String) (terminal : Terminal) : m.Takes style ctx scene preferences line terminal := by
  cases prompted : terminal.prompt? with
  | none => exact .unasked fun rest => by simp [await, prompted]
  | some asked =>
    rcases m.reading_cases ctx line with ⟨_, read⟩ | ⟨rebuff, _, read⟩ | ⟨decision, decides⟩
    · exact .passed asked (not_decides_of_reading (.inl read)) fun rest => by simp [await, prompted, read]
    · have passes := not_decides_of_reading (.inr ⟨rebuff, read⟩)
      cases answered : asked.write? (rebuff.text style (ctx.any (·.hasNarrator)) m.rebuff) with
      | some next => exact .passed next passes fun rest => by simp [await, prompted, read, answered]
      | none => exact .untold asked passes fun rest => by simp [await, prompted, read, answered]
    · exact .decided decides (await_of_decides prompted decides)

/-- A call either writes the options and then waits for lines, or fails before it reads any. -/
theorem resolve_begins (m : Menu) (style : MenuStyle) (ctx : Option Context) (scene : Affordances)
    (preferences : Preferences) (terminal : Terminal) :
    (∃ written, ∀ lines, m.resolve style ctx scene preferences lines terminal =
        m.await style (m.view ctx) scene preferences lines written) ∨
      ∃ fault after, fault ≠ .inputClosed ∧ ∀ lines, m.resolve style ctx scene preferences lines terminal =
        ⟨.error fault, m, preferences, lines, after⟩ := by
  by_cases unavailable : m.available (m.view ctx) = []
  · exact .inr ⟨.noAvailable (m.shown (m.view ctx)).length m.choices.length, terminal, by simp,
      fun lines => by simp only [resolve, unavailable, List.isEmpty_nil, if_true]⟩
  · cases written : terminal.writeAll (m.lines (m.view ctx) style) with
    | mk after done =>
      cases done with
      | true => exact .inl ⟨after, fun lines => by simp [resolve, unavailable, written]⟩
      | false => exact .inr ⟨.deviceFailed, after, by simp, fun lines => by simp [resolve, unavailable, written]⟩

end Menu
end Narrative
