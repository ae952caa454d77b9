import Narrative.Command.Similarity
import Narrative.Text.Blank

/-!
What players enter, read as commands. The words count, in lower case. A direction or a gallery
keyword in front makes all the words its argument; otherwise the first word must call a command, and
the rest is its argument.
-/
namespace Narrative

/-- A command with an argument in canonical form. -/
structure Request where
  command : Command
  argument : String
  deriving DecidableEq

/-- Why an input is no request. -/
inductive Misread where
  | empty
  | unrecognizedCommand (input : String) (suggestion : Option String)
  | unrecognizedArgument (command : Command) (argument : String)
  deriving DecidableEq

/-- What is said of an input that is no request. -/
def Misread.message : Misread → String
  | empty => "empty input"
  | unrecognizedCommand input _ => "unrecognized command: " ++ input
  | unrecognizedArgument command argument => command.name ++ " does not accept \"" ++ argument ++ "\""

namespace Request

/-- The command of a request, with forms without a verb folded into the form with one. -/
def canonical (r : Request) : Command := r.command.canonical

/-- Whether a request is about the game and not about the story. -/
def isMeta (r : Request) : Bool := r.command.isMeta

/-- A command with an argument, if it accepts it. -/
def make (command : Command) (argument : String) : Except Misread Request :=
  match command.accept? argument with
  | some argument => .ok ⟨command, argument⟩
  | none => .error (.unrecognizedArgument command argument)

/-- The command without a verb that a word begins. -/
def bareCommand? (word : String) : Option Command :=
  [Command.directGo, Command.directGallery].find? fun c => (c.accept? word).isSome

/-- The request that words in lower case write. -/
def ofWords [Likeness] : List String → Except Misread Request
  | [] => .error .empty
  | verb :: rest =>
    match bareCommand? verb with
    | some command => make command (String.intercalate " " (verb :: rest))
    | none =>
      match Command.ofVerb? verb with
      | some command => make command (String.intercalate " " rest)
      | none => .error (.unrecognizedCommand (String.intercalate " " (verb :: rest)) (Similarity.suggest? verb))

/-- The request that an input writes. -/
def read [Likeness] (input : String) : Except Misread Request := ofWords (Text.words (Text.lower input))

end Request
end Narrative
