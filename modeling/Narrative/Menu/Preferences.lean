import Narrative.Command.Help
import Narrative.Command.Request
import Narrative.Menu.Affordances

/-!
The preferences of a player and the commands about the game, which show and change them. A command
changes the preferences before it writes anything.
-/
namespace Narrative

/-- What players can turn on and off. -/
structure Preferences where
  contentWarnings : Bool := true
  typewriter : Bool := true
  audio : Bool := true
  deriving DecidableEq

/-- The word for a preference that is on or off. -/
def onOff (value : Bool) : String := if value then "on" else "off"

namespace Preferences

/-- The new value of the preference with a name once it is turned over, and the preferences then. -/
def toggle? (p : Preferences) (name : String) : Option (Bool × Preferences) :=
  match name with
  | "warnings" => some (!p.contentWarnings, { p with contentWarnings := !p.contentWarnings })
  | "typewriter" => some (!p.typewriter, { p with typewriter := !p.typewriter })
  | "audio" => some (!p.audio, { p with audio := !p.audio })
  | _ => none

/-- A line for each preference. -/
def describe (p : Preferences) : List String :=
  ["Content warnings: " ++ onOff p.contentWarnings, "Typewriter effect: " ++ onOff p.typewriter,
    "Audio: " ++ onOff p.audio]

/-- What a command about the game writes, and the preferences after it. -/
def respond (p : Preferences) (command : Command) (argument : String) : List String × Preferences :=
  match command with
  | .help =>
    match Command.ofVerb? argument with
    | some target => (target.helpOn, p)
    | none => (Command.helpLines, p)
  | .showInfo =>
    match argument with
    | "warnings" => (["This game contains depictions of violence, death, and body horror."], p)
    | "achievements" => (["No achievements yet."], p)
    | _ => (p.describe, p)
  | .settings => (p.describe, p)
  | .toggle =>
    match p.toggle? argument with
    | some (value, p) => ([argument ++ " is now " ++ onOff value ++ "."], p)
    | none => (["There is no setting named " ++ argument ++ "."], p)
  | .reset => (["Settings restored to defaults."], {})
  | _ => ([], p)

/-- What comes of a request about the game. -/
def outcome (request : Request) : Outcome := if request.canonical == .quit then .quit else .metaDone

end Preferences
end Narrative
