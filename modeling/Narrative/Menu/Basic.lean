import Narrative.Menu.Choice
import Narrative.Menu.Style

/-!
Menus: which options are shown, the numbers that they carry, and choosing one by its number. The
available options are numbered from 1 in the order of the menu; the others that are shown carry no
number. Choosing counts on the first option with the chosen id; a count without room for a pick stops
the program.
-/
namespace Narrative

/-- A menu. -/
structure Menu where
  choices : List Choice := []
  /-- Whether commands of the story do not count. -/
  exclusive : Bool := false
  /-- Whether the menu is about the game, so that it never looks at the story state. -/
  isMeta : Bool := false
  /-- A text in place of those that turn a command down. -/
  rebuff : Option String := none

/-- An option as it is shown. -/
structure ShownChoice where
  id : String
  /-- The number by which the option is chosen, if it can be. -/
  number : Option Nat
  text : String
  deriving DecidableEq

/-- What comes of choosing an option by a number. -/
inductive Pick where
  /-- No option that can be chosen carries the number. -/
  | refused
  /-- There is no room to count the pick: the program stops. -/
  | overflow
  /-- The option with the id is chosen, and the menu has counted it. -/
  | counted (id : String) (menu : Menu)

namespace Menu

/-- The first option with an id. -/
def choice? (m : Menu) (id : String) : Option Choice := m.choices.find? (·.id == id)

/-- How often the option with an id has been chosen; an unknown one never has. -/
def picksOf (m : Menu) (id : String) : UInt32 := ((m.choice? id).map (·.picks)).getD 0

/-- Whether an option waits for another to be chosen. -/
def isLocked (m : Menu) (c : Choice) : Bool := c.prerequisite.any fun id => m.picksOf id == 0

/-- How an option appears. -/
def appearance (m : Menu) (ctx : Option Context) (c : Choice) : Appearance :=
  if c.isExhausted || !c.visibility.holds ctx || m.isLocked c then .hidden
  else if c.isGreyed ctx then .greyed
  else .available

/-- The options that can be chosen, in order. -/
def available (m : Menu) (ctx : Option Context) : List Choice :=
  m.choices.filter fun c => m.appearance ctx c == .available

/-- The options shown when `count` of those before them are available. -/
def shownFrom (m : Menu) (ctx : Option Context) (count : Nat) : List Choice → List ShownChoice
  | [] => []
  | c :: rest =>
    match m.appearance ctx c with
    | .hidden => m.shownFrom ctx count rest
    | .greyed => ⟨c.id, none, c.text ctx⟩ :: m.shownFrom ctx count rest
    | .available => ⟨c.id, some (count + 1), c.text ctx⟩ :: m.shownFrom ctx (count + 1) rest

/-- The options that are shown, in order and with their numbers. -/
def shown (m : Menu) (ctx : Option Context) : List ShownChoice := m.shownFrom ctx 0 m.choices

/-- The lines of the options that are shown. -/
def lines (m : Menu) (ctx : Option Context) (style : MenuStyle) : List String :=
  (m.shown ctx).map fun c => style.optionLine ((c.number.map toString).getD style.greyedMarker) c.text

/-- One pick more for the first option with an id, if its count has room for one. -/
def pickFirst? (id : String) : List Choice → Option (List Choice)
  | [] => some []
  | c :: rest => if c.id == id then c.picked?.map (· :: rest) else (pickFirst? id rest).map (c :: ·)

/-- The menu with one pick more for an id, if there is room for one. -/
def counting? (m : Menu) (id : String) : Option Menu :=
  (pickFirst? id m.choices).map fun choices => { m with choices }

/-- What comes of choosing the available option with a number. -/
def choose (m : Menu) (number : Int) (ctx : Option Context) : Pick :=
  if number < 1 then .refused
  else
    match (m.available ctx)[number.toNat - 1]? with
    | none => .refused
    | some c =>
      match m.counting? c.id with
      | none => .overflow
      | some counted => .counted c.id counted

/-- The menu with an option more at its end. -/
def push (m : Menu) (c : Choice) : Menu := { m with choices := m.choices ++ [c] }

/-- The menu with every pick forgotten. -/
def resetPicks (m : Menu) : Menu := { m with choices := m.choices.map fun c => { c with picks := 0 } }

/-- The picks of each option, in order. -/
def picks (m : Menu) : List (String × UInt32) := m.choices.map fun c => (c.id, c.picks)

end Menu
end Narrative
