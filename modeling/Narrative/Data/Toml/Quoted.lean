/-!
Strings of TOML. Between double quotes a backslash writes characters by name or by code point; between
single quotes every character stands for itself. A string between three quotes may hold line feeds: the
one right after the opening quotes does not count, and a backslash at the end of a line removes the blanks
and line feeds after it.
-/
namespace Narrative.Toml

/-- A space or a tab. -/
def isSpace (c : Char) : Bool := c == ' ' || c == '\t'

/-- Characters that may stand for themselves: no control characters but the tab. -/
def isPlain (c : Char) : Bool := c == '\t' || (0x20 ≤ c.toNat && c.toNat != 0x7F)

/-- Whether a line ends before the second argument, of which the first is the character in front: at a
line feed, or at a carriage return that a line feed follows. -/
def endsLine (c : Char) (rest : List Char) : Bool := c == '\n' || (c == '\r' && rest.head? == some '\n')

/-- The value of a hexadecimal digit. -/
def hexDigit? (c : Char) : Option Nat :=
  if c.isDigit then some (c.toNat - '0'.toNat)
  else if 'a' ≤ c && c ≤ 'f' then some (c.toNat - 'a'.toNat + 10)
  else if 'A' ≤ c && c ≤ 'F' then some (c.toNat - 'A'.toNat + 10)
  else none

/-- The character that a letter names after a backslash. -/
def named? : Char → Option Char
  | 'b' => some '\x08'
  | 't' => some '\t'
  | 'n' => some '\n'
  | 'f' => some '\x0c'
  | 'r' => some '\r'
  | 'e' => some '\x1b'
  | '"' => some '"'
  | '\\' => some '\\'
  | _ => none

/-- The number of hexadecimal digits that follow a letter after a backslash. -/
def codeDigits? : Char → Option Nat
  | 'x' => some 2
  | 'u' => some 4
  | 'U' => some 8
  | _ => none

/-- The character with a code point. -/
def character? (n : Nat) : Option Char := if n.isValidChar then some (Char.ofNat n) else none

/-- What is being read inside double quotes. -/
inductive Mode where
  | plain
  /-- What follows a backslash. -/
  | escaped
  /-- A code point, of which digits are left. -/
  | code (left value : Nat)
  /-- Blanks and line feeds that do not count. -/
  | trimming

/-- Whether only blanks stand before the end of the line. -/
def isLineRest (cs : List Char) : Bool :=
  match cs.dropWhile isSpace with
  | c :: rest => endsLine c rest
  | [] => false

/-- Up to two quotes in front of closing quotes belong to the string: those, and what follows all of
them. The quotes in front of the argument are one of the three that close. -/
def closing (quote : Char) (rest : List Char) : List Char × List Char :=
  let more := ((rest.drop 2).takeWhile (· == quote)).take 2
  (more, rest.drop (2 + more.length))

/-- The string up to its closing quotes, which are three for a `block`, and what follows them. -/
def escapedString (block : Bool) (mode : Mode) : List Char → Option (List Char × List Char)
  | [] => none
  | c :: rest =>
    let after (mode : Mode) (found : List Char) := (escapedString block mode rest).map fun r => (found ++ r.1, r.2)
    match mode with
    | .escaped =>
      if block && isLineRest (c :: rest) then after .trimming []
      else
        match named? c, codeDigits? c with
        | some found, _ => after .plain [found]
        | none, some left => after (.code left 0) []
        | none, none => none
    | .code left value =>
      match hexDigit? c with
      | none => none
      | some digit =>
        if left ≤ 1 then (character? (16 * value + digit)).bind fun found => after .plain [found]
        else after (.code (left - 1) (16 * value + digit)) []
    | .trimming =>
      if isSpace c || endsLine c rest then after .trimming []
      else if c == '"' then
        if rest.take 2 == ['"', '"'] then some (closing '"' rest) else after .plain [c]
      else if c == '\\' then after .escaped []
      else if isPlain c then after .plain [c]
      else none
    | .plain =>
      if c == '"' then
        if !block then some ([], rest)
        else if rest.take 2 == ['"', '"'] then some (closing '"' rest)
        else after .plain [c]
      else if c == '\\' then after .escaped []
      else if block && endsLine c rest then after .plain (if c == '\n' then [c] else [])
      else if isPlain c then after .plain [c]
      else none

/-- The string up to its closing single quotes, which are three for a `block`, and what follows them. -/
def literalString (block : Bool) : List Char → Option (List Char × List Char)
  | [] => none
  | c :: rest =>
    let after (found : List Char) := (literalString block rest).map fun r => (found ++ r.1, r.2)
    if c == '\'' then
      if !block then some ([], rest)
      else if rest.take 2 == ['\'', '\''] then some (closing '\'' rest)
      else after [c]
    else if block && endsLine c rest then after (if c == '\n' then [c] else [])
    else if isPlain c then after [c]
    else none

/-- The characters without a line feed in front. -/
def dropLineFeed : List Char → List Char
  | '\n' :: rest => rest
  | '\r' :: '\n' :: rest => rest
  | cs => cs

/-- A string on one line, and what follows it. -/
def lineString? : List Char → Option (List Char × List Char)
  | '"' :: rest => escapedString false .plain rest
  | '\'' :: rest => literalString false rest
  | _ => none

/-- A string, and what follows it. -/
def string? : List Char → Option (List Char × List Char)
  | '"' :: '"' :: '"' :: rest => escapedString true .plain (dropLineFeed rest)
  | '\'' :: '\'' :: '\'' :: rest => literalString true (dropLineFeed rest)
  | cs => lineString? cs

end Narrative.Toml
