import Narrative.Data.Value
import Narrative.Text.Fields

/-!
Numbers, truth values and moments of TOML, each written as one word. Between two digits an underscore
may stand. Integers beyond 128 bits and floats beyond the largest one are too large to be held.
-/
namespace Narrative.Toml

/-- Digits without the underscores between them. -/
def digits? (isDigit : Char → Bool) (cs : List Char) : Option (List Char) :=
  let groups := cs.splitOn '_'
  if groups.all fun group => !group.isEmpty && group.all isDigit then some groups.flatten else none

/-- The value of a digit of any base up to sixteen. -/
def digitValue (c : Char) : Nat :=
  if c.isDigit then c.toNat - '0'.toNat else c.toLower.toNat - 'a'.toNat + 10

/-- The value of digits in a base. -/
def valueOf (base : Nat) (digits : List Char) : Nat := digits.foldl (fun n c => base * n + digitValue c) 0

/-- Decimal digits without a needless zero in front. -/
def decimal? (cs : List Char) : Option (List Char) :=
  (digits? Char.isDigit cs).filter fun digits => digits.length == 1 || digits.head? != some '0'

/-- A sign, if there is one: whether it is a minus, and what follows it. -/
def sign : List Char → Bool × List Char
  | '-' :: rest => (true, rest)
  | '+' :: rest => (false, rest)
  | cs => (false, cs)

/-- A number with its sign. -/
def withSign (negative : Bool) (n : Nat) : Int := if negative then -(n : Int) else n

/-- An integer of any base. -/
def integer? (cs : List Char) : Option Int :=
  match cs with
  | '0' :: 'x' :: rest => (digits? (fun c => c.isDigit || ('a' ≤ c.toLower && c.toLower ≤ 'f')) rest).map (valueOf 16 ·)
  | '0' :: 'o' :: rest => (digits? (fun c => '0' ≤ c && c ≤ '7') rest).map (valueOf 8 ·)
  | '0' :: 'b' :: rest => (digits? (fun c => c == '0' || c == '1') rest).map (valueOf 2 ·)
  | cs => (decimal? (sign cs).2).map fun digits => withSign (sign cs).1 (valueOf 10 digits)

/-- An integer as a value; it is held in 128 bits, with a sign or without. -/
def ofInteger (n : Int) : Value :=
  if -0x80000000000000000000000000000000 ≤ n && n < 0x100000000000000000000000000000000 then .integer n
  else .outsize

/-- The float nearest to `mantissa · 10 ^ exponent`; it may be infinite. -/
def scaled (mantissa : Nat) (exponent : Int) : Float :=
  let places := (toString mantissa).length + exponent
  if mantissa == 0 || places < -400 then 0
  else if 400 < places then 1.0 / 0.0
  else Float.ofScientific mantissa (exponent < 0) exponent.natAbs

/-- A float: a whole part, and decimals or a power of ten or both. It is infinite if it is too large. -/
def decimalFloat? (cs : List Char) : Option Float := do
  let (mantissa, power) := Text.cut (fun c => c == 'e' || c == 'E') cs
  let (whole, decimals) := Text.cut (· == '.') mantissa
  if power.isNone && decimals.isNone then none
  let whole ← decimal? whole
  let decimals ← match decimals with
    | some decimals => digits? Char.isDigit decimals
    | none => some []
  let exponent ← match power with
    | some power => (digits? Char.isDigit (sign power).2).map fun ds => withSign (sign power).1 (valueOf 10 ds)
    | none => some 0
  pure (scaled (valueOf 10 (whole ++ decimals)) (exponent - decimals.length))

/-- A float, or one of the words for what is no number or has no bound. -/
def float? (cs : List Char) : Option Value :=
  let (negative, size) := sign cs
  let signed (x : Float) : Value := .float (if negative then -x else x)
  match String.ofList size with
  | "inf" => some (signed (1.0 / 0.0))
  | "nan" => some (signed (0.0 / 0.0))
  | _ => (decimalFloat? size).map fun x => if x.isFinite then signed x else .outsize

/-- The value of exactly two digits. -/
def pair? : List Char → Option Nat
  | [a, b] => if a.isDigit && b.isDigit then some (valueOf 10 [a, b]) else none
  | _ => none

/-- Whether two digits write a number up to a bound. -/
def isPair (bound : Nat) (cs : List Char) : Bool := (pair? cs).any (· ≤ bound)

/-- The number of days of a month. -/
def monthDays (year month : Nat) : Nat :=
  if month == 2 then if year % 4 == 0 && (year % 100 != 0 || year % 400 == 0) then 29 else 28
  else if [4, 6, 9, 11].contains month then 30
  else 31

/-- Whether the characters write a day: a year of four digits, a month and a day of it. -/
def isDay (cs : List Char) : Bool :=
  match cs.splitOn '-' with
  | [year, month, day] =>
    year.length == 4 && year.all Char.isDigit && (pair? month).any (fun m => 1 ≤ m && m ≤ 12)
      && (pair? day).any fun d => 1 ≤ d && d ≤ monthDays (valueOf 10 year) ((pair? month).getD 0)
  | _ => false

/-- Whether the characters write a time of the day; its seconds may be missing or have decimals. -/
def isTime (cs : List Char) : Bool :=
  match cs.splitOn ':' with
  | [hour, minute] => isPair 23 hour && isPair 59 minute
  | [hour, minute, second] =>
    let (second, decimals) := Text.cut (· == '.') second
    isPair 23 hour && isPair 59 minute && isPair 60 second
      && (decimals.getD ['0']).all Char.isDigit && decimals != some []
  | _ => false

/-- Whether the characters write a distance from universal time. -/
def isOffset (cs : List Char) : Bool :=
  match cs.splitOn ':' with
  | [hour, minute] => isPair 23 hour && isPair 59 minute
  | _ => false

/-- Whether the characters write a time of the day that may have a distance from universal time. -/
def isZonedTime (cs : List Char) : Bool :=
  let (time, offset) := Text.cut (fun c => c == '+' || c == '-') cs
  match offset with
  | some offset => isTime time && isOffset offset
  | none =>
    match cs.reverse with
    | last :: front => if last == 'Z' || last == 'z' then isTime front.reverse else isTime cs
    | [] => false

/-- Whether the characters write a day and a time of it. -/
def isDayAndTime (cs : List Char) : Bool :=
  isDay (cs.take 10) && ((cs.drop 10).head?.any fun c => c == 'T' || c == 't' || c == ' ') && isZonedTime (cs.drop 11)

/-- The key under which a moment keeps its text; no setting has this name. -/
def momentKey : String := "$moment"

/-- A day, a time or both, as a table with one key. -/
def moment? (cs : List Char) : Option Value :=
  if isDay cs || isTime cs || isDayAndTime cs then some (.table [(momentKey, .text (String.ofList cs))]) else none

/-- The value that a word writes. -/
def scalar? (cs : List Char) : Option Value :=
  match String.ofList cs with
  | "true" => some (.bool true)
  | "false" => some (.bool false)
  | _ => ((integer? cs).map ofInteger).or ((float? cs).or (moment? cs))

/-- Whether a value says nothing. -/
def isNothing : Value → Bool
  | .list items => items.isEmpty
  | .table entries => entries.isEmpty
  | _ => false

end Narrative.Toml
