import Narrative.Data.Toml.Quoted
import Narrative.Data.Toml.Scalar
import Narrative.Data.Toml.Table

/-!
Reading a TOML document. A document is a list of lines: headers of tables and keys with their values.
Values nest, so they are read with a bound on the number of steps, which no document exceeds. Lists and
tables between braces nest to a limit, and a key has no more parts than that.
-/
namespace Narrative.Toml

/-- What follows the rest of a line that holds nothing but blanks and a comment. -/
def lineEnd? (comment : Bool) : List Char → Option (List Char)
  | [] => some []
  | c :: rest =>
    if c == '\n' then some rest
    else if endsLine c rest || isSpace c then lineEnd? comment rest
    else if comment then if isPlain c then lineEnd? true rest else none
    else if c == '#' then lineEnd? true rest
    else none

/-- What follows blanks, line ends and comments. -/
def skipLines? (comment : Bool) : List Char → Option (List Char)
  | [] => some []
  | c :: rest =>
    if c == '\n' then skipLines? false rest
    else if endsLine c rest then skipLines? comment rest
    else if comment then if isPlain c then skipLines? true rest else none
    else if isSpace c then skipLines? false rest
    else if c == '#' then skipLines? true rest
    else some (c :: rest)

/-- What follows a character, if that stands in front. -/
def after? (expected : Char) : List Char → Option (List Char)
  | c :: rest => if c == expected then some rest else none
  | [] => none

/-- The characters of keys without quotes. -/
def isKeyChar (c : Char) : Bool := c.isAlphanum || c == '_' || c == '-'

/-- A key without dots, and what follows it. -/
def simpleKey? (cs : List Char) : Option (String × List Char) :=
  match lineString? cs with
  | some (key, rest) => some (String.ofList key, rest)
  | none =>
    let key := cs.takeWhile isKeyChar
    if key.isEmpty then none else some (String.ofList key, cs.dropWhile isKeyChar)

/-- How deep lists and tables may nest, and how many parts a key may have. -/
def nesting : Nat := 80

/-- A key and the keys after its dots, and what follows them and the blanks around them. -/
def keyParts? : (steps : Nat) → List Char → Option (List String × List Char)
  | 0, _ => none
  | steps + 1, cs => do
    let (key, rest) ← simpleKey? (cs.dropWhile isSpace)
    let rest := rest.dropWhile isSpace
    match after? '.' rest with
    | some rest => do
      let (path, rest) ← keyParts? steps rest
      pure (key :: path, rest)
    | none => pure ([key], rest)

/-- A key of no more parts than are allowed, and what follows it. -/
def key? (cs : List Char) : Option (List String × List Char) :=
  (keyParts? (cs.length + 1) cs).filter fun (path, _) => path.length ≤ nesting

/-- The characters of words that write numbers, truth values and moments. -/
def isScalarChar (c : Char) : Bool := c.isAlphanum || c == '_' || c == '-' || c == '+' || c == '.' || c == ':'

/-- The word in front and what follows it; a blank between a day and a time belongs to the word. -/
def scalarWord (cs : List Char) : List Char × List Char :=
  let word := cs.takeWhile isScalarChar
  let rest := cs.dropWhile isScalarChar
  match rest with
  | ' ' :: digit :: more =>
    if isDay word && digit.isDigit then
      (word ++ ' ' :: (digit :: more).takeWhile isScalarChar, (digit :: more).dropWhile isScalarChar)
    else (word, rest)
  | _ => (word, rest)

mutual

/-- A value in which lists and tables nest no deeper than `depth`, and what follows it. -/
def value? : (steps depth : Nat) → List Char → Option (Value × List Char)
  | 0, _, _ => none
  | steps + 1, depth, cs =>
    match cs, depth with
    | '"' :: _, _ | '\'' :: _, _ => (string? cs).map fun (s, rest) => (.text (String.ofList s), rest)
    | '[' :: _, 0 | '\x7b' :: _, 0 => none
    | '[' :: rest, depth + 1 => (items? steps depth rest).map fun (items, rest) => (.list items, rest)
    | '\x7b' :: rest, depth + 1 =>
      (pairs? steps depth [] rest).map fun (entries, rest) => (.table (entryValues entries), rest)
    | cs, _ => (scalar? (scalarWord cs).1).map fun value => (value, (scalarWord cs).2)

/-- The items of a list up to its end, and what follows it. -/
def items? : (steps depth : Nat) → List Char → Option (List Value × List Char)
  | 0, _, _ => none
  | steps + 1, depth, cs => do
    let cs ← skipLines? false cs
    match after? ']' cs with
    | some rest => pure ([], rest)
    | none => do
      let (item, rest) ← value? steps depth cs
      let rest ← skipLines? false rest
      match after? ',' rest with
      | some rest => do
        let (items, rest) ← items? steps depth rest
        pure (item :: items, rest)
      | none => do
        let rest ← after? ']' rest
        pure ([item], rest)

/-- The entries of a table between braces up to its end, added to those before, and what follows it. -/
def pairs? : (steps depth : Nat) → Entries → List Char → Option (Entries × List Char)
  | 0, _, _, _ => none
  | steps + 1, depth, entries, cs => do
    let cs ← skipLines? false cs
    match after? '\x7d' cs with
    | some rest => pure (entries, rest)
    | none => do
      let (key, rest) ← key? cs
      let rest ← after? '=' rest
      let (value, rest) ← value? steps depth (rest.dropWhile isSpace)
      let entries ← assign value key entries
      let rest ← skipLines? false rest
      match after? ',' rest with
      | some rest => pairs? steps depth entries rest
      | none => do
        let rest ← after? '\x7d' rest
        pure (entries, rest)

end

/-- What a document says on one line. -/
inductive Statement where
  /-- The entries that follow belong to a table. -/
  | header (path : List String)
  /-- The entries that follow belong to a further table of a series. -/
  | series (path : List String)
  | entry (path : List String) (value : Value)

/-- The statement in front, and what follows it. -/
def statement? (cs : List Char) : Option (Statement × List Char) := do
  match cs with
  | '[' :: '[' :: rest => do
    let (path, rest) ← key? rest
    let rest ← (after? ']' rest).bind (after? ']')
    pure (.series path, rest)
  | '[' :: rest => do
    let (path, rest) ← key? rest
    let rest ← after? ']' rest
    pure (.header path, rest)
  | cs => do
    let (path, rest) ← key? cs
    let rest ← after? '=' rest
    let (value, rest) ← value? (2 * cs.length + 2) nesting (rest.dropWhile isSpace)
    pure (.entry path value, rest)

/-- The statements of a document. -/
def statements? : (steps : Nat) → List Char → Option (List Statement)
  | 0, _ => none
  | steps + 1, cs => do
    let cs ← skipLines? false cs
    if cs.isEmpty then pure []
    else do
      let (statement, rest) ← statement? cs
      let rest ← lineEnd? false rest
      let others ← statements? steps rest
      pure (statement :: others)

/-- The entries of a document after statements that follow the header `path`. -/
def gather? (path : List String) : List Statement → Entries → Option Entries
  | [], entries => some entries
  | .header next :: rest, entries => do
    let entries ← reach (beginTable (next.getLastD "")) next.dropLast entries
    gather? next rest entries
  | .series next :: rest, entries => do
    let entries ← reach (beginNext (next.getLastD "")) next.dropLast entries
    gather? next rest entries
  | .entry key value :: rest, entries => do
    let entries ← reach (assign value key) path entries
    gather? path rest entries

/-- The table that a document describes, if it is one. -/
def read? (document : String) : Option Value := do
  let cs := match document.toList with
    | '\uFEFF' :: rest => rest
    | cs => cs
  let statements ← statements? (cs.length + 1) cs
  let entries ← gather? [] statements []
  pure (.table (entryValues entries))

end Narrative.Toml
