import Narrative.Menu.Basic
import Narrative.Menu.Preferences
import Narrative.Menu.Rebuff
import Narrative.Menu.Terminal
import Narrative.Number.Integer
import Narrative.Text.Blank

/-!
Resolving a menu: its options are written, and lines are read until one decides what comes of it.
A number chooses an option, a command about the game is carried out, and a command of the story fares
as the scene has it. Blank lines pass in silence; any other line is turned down, and the next one is
read.
-/
namespace Narrative

/-- Why nothing comes of a menu. -/
inductive MenuFault where
  /-- No option can be chosen, of `total` options of which some are shown. -/
  | noAvailable (shown total : Nat)
  | inputClosed
  | deviceFailed
  /-- There is no room to count the pick of an option: the program stops. -/
  | overflow
  deriving DecidableEq

/-- The fault of a menu in words. -/
def MenuFault.message : MenuFault → String
  | noAvailable shown total =>
    "menu has no available options (" ++ toString shown ++ " shown, " ++ toString total ++ " total)"
  | inputClosed => "input closed before a choice was made"
  | deviceFailed => deviceMessage
  | overflow => "attempt to add with overflow"

/-- What a menu makes of a line. -/
inductive Reading where
  | blank
  /-- An option is chosen, which changes the menu. -/
  | chosen (id : String) (menu : Menu)
  /-- An option is chosen, and there is no room to count it. -/
  | overflow
  /-- A command about the game. -/
  | aboutGame (request : Request)
  /-- A command of the story, in a context where it counts. -/
  | aboutStory (request : Request) (ctx : Context)
  | rebuffed (rebuff : Rebuff)

/-- What came of a menu, and what is left behind. -/
structure Resolution where
  result : Except MenuFault Outcome
  menu : Menu
  preferences : Preferences
  /-- The lines that were not read. -/
  unread : List String
  terminal : Terminal

namespace Menu

/-- The context that a menu looks at: none where the menu is about the game. -/
def view (m : Menu) (ctx : Option Context) : Option Context := if m.isMeta then none else ctx

variable [Likeness]

/-- What a menu makes of a line in the context that it looks at. -/
def reading (m : Menu) (ctx : Option Context) (line : String) : Reading :=
  let line := Text.trim line
  if line.isEmpty then .blank
  else
    match Number.integer? line with
    | some number =>
      match m.choose number ctx with
      | .counted id chosen => .chosen id chosen
      | .overflow => .overflow
      | .refused => .rebuffed (.outOfRange number (m.available ctx).length)
    | none =>
      match Request.read line with
      | .error .empty => .blank
      | .error misread => .rebuffed (.unrecognized misread)
      | .ok request =>
        if request.isMeta then .aboutGame request
        else
          match m.exclusive, ctx with
          | false, some ctx => .aboutStory request ctx
          | _, _ => .rebuffed (.unavailable request.canonical)

/-- Reads lines until one decides what comes of the menu. -/
def await (m : Menu) (style : MenuStyle) (ctx : Option Context) (scene : Affordances) (preferences : Preferences) :
    List String → Terminal → Resolution
  | [], terminal =>
    match terminal.prompt? with
    | none => ⟨.error .deviceFailed, m, preferences, [], terminal⟩
    | some terminal => ⟨.error .inputClosed, m, preferences, [], terminal⟩
  | line :: rest, terminal =>
    match terminal.prompt? with
    | none => ⟨.error .deviceFailed, m, preferences, line :: rest, terminal⟩
    | some terminal =>
      match m.reading ctx line with
      | .blank => m.await style ctx scene preferences rest terminal
      | .chosen id chosen => ⟨.ok (.option id), chosen, preferences, rest, terminal⟩
      | .overflow => ⟨.error .overflow, m, preferences, rest, terminal⟩
      | .aboutGame request =>
        let (lines, preferences) := preferences.respond request.canonical request.argument
        let (terminal, done) := terminal.writeAll lines
        let result := if done then .ok (Preferences.outcome request) else .error .deviceFailed
        ⟨result, m, preferences, rest, terminal⟩
      | .aboutStory request ctx => ⟨.ok (scene.outcome request ctx), m, preferences, rest, terminal⟩
      | .rebuffed rebuff =>
        match terminal.write? (rebuff.text style (ctx.any (·.hasNarrator)) m.rebuff) with
        | some terminal => m.await style ctx scene preferences rest terminal
        | none => ⟨.error .deviceFailed, m, preferences, rest, terminal⟩

/-- What comes of a menu in a context and a scene, for the lines that the player enters. -/
def resolve (m : Menu) (style : MenuStyle) (ctx : Option Context) (scene : Affordances) (preferences : Preferences)
    (lines : List String) (terminal : Terminal) : Resolution :=
  let ctx := m.view ctx
  if (m.available ctx).isEmpty then
    ⟨.error (.noAvailable (m.shown ctx).length m.choices.length), m, preferences, lines, terminal⟩
  else
    let (terminal, done) := terminal.writeAll (m.lines ctx style)
    if done then m.await style ctx scene preferences lines terminal
    else ⟨.error .deviceFailed, m, preferences, lines, terminal⟩

end Menu
end Narrative
