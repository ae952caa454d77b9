import Narrative.Menu.Session
import Narrative.Play.Run
import Narrative.Shell.Chance
import Narrative.Shell.Likeness

/-!
Menus and scripts on a console: what stands on the screen after given input. A player's lines end at line
feeds, and the carriage returns before those do not count. A script waits for input without showing it, so
the input has no part in what it puts on the screen.
-/
namespace Narrative.Console

/-- The lines that a player enters. -/
def inputLines (input : String) : List String :=
  (Script.chunks input.toList).map fun chunk => String.ofList (Script.withoutEnd chunk)

/-- What comes of a menu in a scene without declared commands; the screen is that of its terminal. -/
def resolve (menu : Menu) (style : MenuStyle) (ctx : Option Context) (input : String) : Resolution :=
  menu.resolve style ctx {} {} (inputLines input) {}

/-- What one run of a script puts on the screen, and how it ends. -/
def play (script : Script) (settings : PlaySettings) (ctx : Context) (start : Start) : List String × Ending :=
  let (state, ending) := script.run settings ctx start { chance := (Generator.ofSeed settings.seed : StdGen) }
  (state.presenter.calls.toList.filterMap Call.written?, ending)

end Narrative.Console
