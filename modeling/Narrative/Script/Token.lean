import Narrative.Script.Span
import Narrative.Text.Utf8

/-!
The tokens of a modifier block, and the dividers that set blocks off from the body of a line. Spans
count bytes from a given base. Dividers are found from left to right (`joined_segments`), and every
character of a block other than a space, a tab or a carriage return belongs to a token.
-/
namespace Narrative

/-- A token of a modifier block. -/
inductive Token where
  | leftParen
  | rightParen
  | comma
  | semicolon
  | word (text : List Char)
  deriving DecidableEq

/-- The characters of a token. -/
def Token.chars : Token → List Char
  | leftParen => ['(']
  | rightParen => [')']
  | comma => [',']
  | semicolon => [';']
  | word text => text

/-- A token and where it stands. -/
structure Lexeme where
  token : Token
  span : Span
  deriving DecidableEq

namespace Token

/-- The blanks between tokens. -/
def isGap (c : Char) : Bool := c == ' ' || c == '\t' || c == '\r'

/-- The token that a character is by itself. A line feed ends a word and is a word of its own. -/
def ofChar? : Char → Option Token
  | '(' => some leftParen
  | ')' => some rightParen
  | ',' => some comma
  | ';' => some semicolon
  | '\n' => some (word ['\n'])
  | _ => none

/-- The pending word, which is reversed and ends at `pos`, as a token. -/
def pendingWord (pos : Nat) (pending : List Char) : List Lexeme :=
  if pending.isEmpty then []
  else [⟨.word pending.reverse, pos - Text.byteLength pending, pos⟩]

/-- The tokens of the characters from `pos` on, after the reversed part `pending` of a word. -/
def scanFrom (pos : Nat) (pending : List Char) : List Char → List Lexeme
  | [] => pendingWord pos pending
  | c :: rest =>
    let next := pos + c.utf8Size
    if isGap c then pendingWord pos pending ++ scanFrom next [] rest
    else
      match ofChar? c with
      | some token => pendingWord pos pending ++ ⟨token, pos, next⟩ :: scanFrom next [] rest
      | none => scanFrom next (c :: pending) rest

/-- The tokens of a block that starts at `base`. -/
def scan (base : Nat) (block : List Char) : List Lexeme := scanFrom base [] block

end Token

/-- The divider between the body of a line and its modifiers. -/
def divider : List Char := ['/', '/', '/']

/-- The parts of a line around its dividers. -/
def segments : List Char → List (List Char)
  | '/' :: '/' :: '/' :: rest => [] :: segments rest
  | c :: rest => (segments rest).modifyHead (c :: ·)
  | [] => [[]]

/-- The parts of a line, each with the position of its first byte when the first part starts at `pos`. -/
def placedFrom (pos : Nat) : List (List Char) → List (List Char × Nat)
  | [] => []
  | part :: rest => (part, pos) :: placedFrom (pos + Text.byteLength part + 3) rest

/-- The body of a line and what follows each of its dividers, with its position in the line. -/
def splitDividers (line : List Char) : List Char × List (List Char × Nat) :=
  match segments line with
  | [] => ([], [])
  | body :: blocks => (body, placedFrom (Text.byteLength body + 3) blocks)

theorem segments_ne_nil (line : List Char) : segments line ≠ [] := by
  fun_induction segments line with
  | case1 => simp
  | case2 c rest _ ih => cases shape : segments rest <;> simp_all
  | case3 => simp

/-- The parts with dividers between them are the line. -/
theorem joined_segments (line : List Char) : List.intercalate divider (segments line) = line := by
  fun_induction segments line with
  | case1 rest ih =>
    cases shape : segments rest with
    | nil => exact absurd shape (segments_ne_nil rest)
    | cons s ss => simp_all [List.intercalate, divider]
  | case2 c rest _ ih =>
    cases shape : segments rest with
    | nil => exact absurd shape (segments_ne_nil rest)
    | cons s ss => cases ss <;> simp_all [List.intercalate]
  | case3 => rfl

end Narrative
