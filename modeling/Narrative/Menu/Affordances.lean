import Narrative.Command.Request
import Narrative.Story.Context

/-!
What the commands of the story do in a scene. Declarations and requests meet in their canonical
form, the last declaration counts, and a declared success needs the blade to be where the command
needs it.
-/
namespace Narrative

/-- How a command of the story fares. -/
inductive Status where
  | success
  /-- What the command is about is not here. -/
  | targetAbsent
  /-- The story state forbids it. -/
  | preconditionUnmet
  /-- The scene forbids it. -/
  | disallowed
  deriving DecidableEq

/-- What commands do in a scene, the latest declaration first. -/
structure Affordances where
  entries : List ((Command × String) × Status) := []
  deriving DecidableEq

/-- Whether the blade is where a command needs it. -/
def Command.bladeAllows (ctx : Context) : Command → Bool
  | .take => ctx.blade != .held
  | .drop | .throwIt | .slay => ctx.blade == .held
  | _ => true

namespace Affordances

/-- The affordances with a declaration more. -/
def declare (a : Affordances) (command : Command) (argument : String) (status : Status) : Affordances :=
  ⟨((command.canonical, argument), status) :: a.entries⟩

/-- The status declared last for a command in canonical form and an argument. -/
def declared? (a : Affordances) (command : Command) (argument : String) : Option Status :=
  (a.entries.find? (·.1 == (command, argument))).map (·.2)

/-- The status of a command that is not declared. -/
def undeclared : Command → Status
  | .go | .gallery => .targetAbsent
  | _ => .disallowed

/-- How a request fares in a context. -/
def status (a : Affordances) (request : Request) (ctx : Context) : Status :=
  let declared := (a.declared? request.canonical request.argument).getD (undeclared request.canonical)
  if declared == .success && !request.canonical.bladeAllows ctx then .preconditionUnmet else declared

end Affordances

/-- What comes of a menu. -/
inductive Outcome where
  /-- An option was chosen. -/
  | option (id : String)
  /-- A command about the game was carried out; the menu is to be shown again. -/
  | metaDone
  | quit
  /-- A command of the story was entered. -/
  | command (command : Command) (argument : String) (status : Status)
  deriving DecidableEq

/-- What comes of a request of the story in a context. -/
def Affordances.outcome (a : Affordances) (request : Request) (ctx : Context) : Outcome :=
  .command request.canonical request.argument (a.status request ctx)

end Narrative
