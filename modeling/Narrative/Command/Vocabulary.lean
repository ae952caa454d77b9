import Narrative.Enumerated

/-!
The commands that players can enter: the words that call each, the arguments that each accepts, and
the help on them. Synonyms stand in one group, and the first of a group is its canonical form. A
direction or a gallery keyword by itself is a command of its own, which stands for the command with
a verb in front.
-/
namespace Narrative

/-- A command. -/
inductive Command where
  | help | showInfo | settings | toggle | reset | go
  /-- A direction by itself. -/
  | directGo
  | gallery
  /-- A gallery keyword by itself. -/
  | directGallery
  | take | drop | throwIt | slay | approach | quit
  deriving DecidableEq

/-- The arguments that a command accepts. -/
inductive Arguments where
  /-- Groups of synonyms, each with its canonical form first. -/
  | groups (list : List (List String))
  /-- Nothing, or a word that calls a command. -/
  | commandName
  deriving DecidableEq

/-- What there is to know about a command. -/
structure CommandRow where
  /-- The words that call the command, the main one first; none for a form without a verb. -/
  verbs : List String
  description : String
  /-- Whether the command is about the game and not about the story. -/
  isMeta : Bool
  arguments : Arguments
  deriving DecidableEq

namespace Command

instance : Enumerated Command where
  all := [help, showInfo, settings, toggle, reset, go, directGo, gallery, directGallery, take, drop, throwIt, slay,
    approach, quit]
  mem_all c := by cases c <;> simp

/-- The argument of a command that stands alone. -/
def blank : String := ""

/-- The directions. -/
def directions : List (List String) :=
  [["forward"], ["back", "backward"], ["left"], ["right"], ["up"], ["down"], ["in", "inside"], ["out", "outside"]]

/-- The keywords of the gallery. -/
def galleryKeywords : List (List String) := [["next"], ["prev", "previous"], ["first"], ["last"]]

/-- The names of the blade. -/
def bladeNames : List String := ["blade", "the blade"]

/-- The names of the princess. -/
def princessNames : List String := ["princess", "the princess"]

/-- The row of a command. -/
def row : Command → CommandRow
  | help => ⟨["help", "commands"], "list commands, or explain one", true, .commandName⟩
  | showInfo =>
    ⟨["show", "view"], "show content warnings, settings, or achievements", true,
      .groups [["warnings", "content warnings"], ["settings"], ["achievements"]]⟩
  | settings => ⟨["settings", "options"], "show the current settings", true, .groups [[blank]]⟩
  | toggle =>
    ⟨["toggle"], "toggle content warnings, the typewriter effect, or audio", true,
      .groups [["warnings"], ["typewriter"], ["audio"]]⟩
  | reset => ⟨["reset"], "restore default settings", true, .groups [["settings"]]⟩
  | go => ⟨["go", "walk", "move"], "move in a direction", false, .groups directions⟩
  | directGo => ⟨[], "move in a direction", false, .groups directions⟩
  | gallery => ⟨["gallery"], "browse the gallery", false, .groups ([blank] :: galleryKeywords)⟩
  | directGallery => ⟨[], "browse the gallery", false, .groups galleryKeywords⟩
  | take => ⟨["take", "get", "grab"], "take the blade", false, .groups [bladeNames]⟩
  | drop => ⟨["drop"], "drop the blade", false, .groups [bladeNames]⟩
  | throwIt =>
    ⟨["throw", "toss"], "throw the blade", false,
      .groups [bladeNames, ["blade out the window", "the blade out the window"]]⟩
  | slay => ⟨["slay", "kill"], "slay the princess, or yourself", false, .groups [princessNames, ["self", "yourself"]]⟩
  | approach =>
    ⟨["approach"], "approach the mirror or the princess", false, .groups [["mirror", "the mirror"], princessNames]⟩
  | quit => ⟨["quit", "exit"], "leave the game", true, .groups [[blank]]⟩

/-- The command with a verb that a form without one stands for. -/
def canonical : Command → Command
  | directGo => go
  | directGallery => gallery
  | c => c

/-- Whether a command is about the game and not about the story. -/
def isMeta (c : Command) : Bool := c.row.isMeta

/-- The main word that calls a command. -/
def name (c : Command) : String := c.canonical.row.verbs.headD blank

/-- The command that a word calls. -/
def ofVerb? (word : String) : Option Command := Enumerated.all.find? fun c => c.row.verbs.contains word

/-- Every word that calls a command, in the order of the commands. -/
def allVerbs : List String := (Enumerated.all : List Command).flatMap (·.row.verbs)

/-- The canonical form of an argument in lower case with single blanks, if the command accepts it. -/
def accept? (c : Command) (argument : String) : Option String :=
  match c.row.arguments with
  | .groups groups => (groups.find? (·.contains argument)).map (·.headD blank)
  | .commandName => if argument.isEmpty then some blank else (ofVerb? argument).map name

end Command
end Narrative
