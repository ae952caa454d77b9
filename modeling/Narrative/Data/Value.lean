/-!
Values of data files: what settings are read from and what reports are written to.
-/
namespace Narrative

/-- A value of a data file. -/
inductive Value where
  | null
  | bool (b : Bool)
  | integer (n : Int)
  | float (x : Float)
  /-- A number that is too large to be held. -/
  | outsize
  | text (s : String)
  | list (items : List Value)
  | table (entries : List (String × Value))
  deriving Inhabited

namespace Value

/-- The value under a key. -/
def field? (entries : List (String × Value)) (key : String) : Option Value :=
  (entries.find? (·.1 == key)).map (·.2)

/-- The value under a key as `read` takes it, or `default` where the key is missing. Nothing comes of a
value that `read` refuses. -/
def fieldOr {α : Type} (entries : List (String × Value)) (key : String) (default : α)
    (read : Value → Option α) : Option α :=
  match field? entries key with
  | none => some default
  | some value => read value

/-- A truth value. -/
def bool? : Value → Option Bool
  | bool b => some b
  | _ => none

/-- A text. -/
def text? : Value → Option String
  | text s => some s
  | _ => none

/-- A natural number that fits 64 bits. -/
def word? : Value → Option Nat
  | integer n => if 0 ≤ n && n < 0x10000000000000000 then some n.toNat else none
  | _ => none

/-- A number, whole or not; a whole one fits 64 bits, with a sign or without. -/
def number? : Value → Option Float
  | float x => some x
  | integer n =>
    if -0x8000000000000000 ≤ n && n < 0x10000000000000000 then
      some (if n < 0 then -(Float.ofNat n.natAbs) else Float.ofNat n.natAbs)
    else none
  | _ => none

mutual

/-- Whether nothing in a value is too large to be held. -/
def isHeld : Value → Bool
  | outsize => false
  | list items => areHeld items
  | table entries => entriesHeld entries
  | _ => true

/-- Whether nothing in the items of a list is too large to be held. -/
def areHeld : List Value → Bool
  | [] => true
  | item :: rest => item.isHeld && areHeld rest

/-- Whether nothing in the entries of a table is too large to be held. -/
def entriesHeld : List (String × Value) → Bool
  | [] => true
  | (_, value) :: rest => value.isHeld && entriesHeld rest

end

/-- The entries of a table, or of a list that gives the values of `keys` in order. The entries of a table
under other keys say nothing, but they have to be sound; the further items of a list are not looked at. -/
def record? (keys : List String) : Value → Option (List (String × Value))
  | table entries => if entriesHeld (entries.filter fun e => !keys.contains e.1) then some entries else none
  | list items => some (keys.zip items)
  | _ => none

/-- The entries of a table. -/
def table? : Value → Option (List (String × Value))
  | table entries => some entries
  | _ => none

end Value
end Narrative
