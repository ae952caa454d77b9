import Narrative.Cast.Speaker
import Narrative.Script.Directive
import Narrative.Script.Modifier
import Narrative.Script.Token
import Narrative.Text.Alphanumeric

/-!
One line of a script: what it says or does, and its modifier block. Every text is a line; what
cannot be read is kept, with the reason, for the report on the script.
-/
namespace Narrative

/-- What a line says or does, its modifiers aside. -/
inductive Content where
  | blank
  /-- Spoken text; `unknown` is a name in front of it that no speaker has. -/
  | dialogue (speaker : Speaker) (text : String) (unknown : Option String)
  | directive (keyword : Keyword) (args : List String)
  deriving DecidableEq

/-- What follows the body of a line. -/
inductive Block where
  | absent
  | entries (list : List Entry)
  /-- A divider without entries. -/
  | empty
  /-- More than one divider. -/
  | dividers (count : Nat)
  deriving DecidableEq

/-- The entries of a block. -/
def Block.toList : Block → List Entry
  | .entries list => list
  | _ => []

/-- Whether a line has a divider. -/
def Block.isPresent : Block → Bool
  | .absent => false
  | _ => true

/-- A line of a script. -/
structure Line where
  /-- The place of the line, counted from 0. -/
  index : Nat
  /-- The bytes of the line in the source, its end aside. -/
  span : Span
  raw : String
  content : Content
  block : Block
  deriving DecidableEq

namespace Content

/-- Whether a text can be the name of a speaker. -/
def isIdentifier (cs : List Char) : Bool := !cs.isEmpty && cs.all fun c => Text.isAlphanumeric c || c == '_'

/-- The dialogue that a trimmed body writes: a speaker's name and a colon may stand before the text. -/
def ofSpeech (body : List Char) : Content :=
  match Text.cut (· == ':') body with
  | (head, some rest) =>
    if isIdentifier head then
      match Speaker.ofName? (String.ofList head) with
      | some speaker => dialogue speaker (String.ofList (Text.trimChars rest)) none
      | none => dialogue Speaker.default (String.ofList body) (some (String.ofList head))
    else dialogue Speaker.default (String.ofList body) none
  | _ => dialogue Speaker.default (String.ofList body) none

/-- What a body says or does: nothing if it is blank, a directive if its first word is a keyword, and
dialogue otherwise. -/
def ofBody (body : List Char) : Content :=
  match (Text.wordsOf body).map String.ofList with
  | [] => blank
  | word :: args =>
    match Keyword.ofWord? word with
    | some keyword => directive keyword args
    | none => ofSpeech (Text.trimChars body)

/-- Whether modifiers of a line with this content are never evaluated. -/
def ignoresModifiers : Content → Bool
  | blank => true
  | directive .label _ => true
  | _ => false

/-- The content with sound arguments, if it is a directive that has them. -/
def directive? : Content → Option Directive
  | directive keyword args => (Directive.read keyword args).toOption
  | _ => none

end Content

namespace Entry

/-- The texts of the words between two commas. -/
def argument? (group : List Lexeme) : Option String :=
  let words := group.filterMap fun l => match l.token with
    | .word w => some (String.ofList w)
    | _ => none
  if group.isEmpty || words.length != group.length then none else some (String.intercalate " " words)

/-- The arguments between two parentheses. -/
def arguments? (inner : List Lexeme) : Option (List String) :=
  if inner.isEmpty then some [] else (inner.splitOnP (·.token == .comma)).mapM argument?

/-- The arguments that follow the name of an entry, whose source is given. -/
def argsAfterName (source : String) : List Lexeme → EntryArgs
  | [] => .absent
  | paren :: rest =>
    match rest.getLast? with
    | some last =>
      if paren.token == .leftParen && last.token == .rightParen then
        match arguments? rest.dropLast with
        | some values => .list values
        | none => .malformed source
      else .malformed source
    | none => .malformed source

/-- The characters from one byte to another of a text that starts at `pos`. -/
def slice (pos start stop : Nat) : List Char → List Char
  | [] => []
  | c :: rest =>
    if stop ≤ pos then []
    else if pos < start then slice (pos + c.utf8Size) start stop rest
    else c :: slice (pos + c.utf8Size) start stop rest

/-- The entry that tokens of a block write; the block is given with the position of its first byte. -/
def ofLexemes (base : Nat) (block : List Char) (first : Lexeme) (rest : List Lexeme) : Entry :=
  let span : Span := ⟨first.span.start, (rest.getLastD first).span.stop⟩
  let source := String.ofList (slice base span.start span.stop block)
  match first.token with
  | .word name => ⟨Text.lower (String.ofList name), argsAfterName source rest, span⟩
  | _ => ⟨Text.lower source, .malformed source, span⟩

/-- The entries of a block, one for each part between semicolons that has a token. -/
def ofBlock (base : Nat) (block : List Char) : List Entry :=
  ((Token.scan base block).splitOnP (·.token == .semicolon)).filterMap fun
    | [] => none
    | first :: rest => some (ofLexemes base block first rest)

end Entry

/-- The block that the parts after the dividers of a line make; the line starts at `offset`. -/
def Block.ofParts (offset : Nat) : List (List Char × Nat) → Block
  | [] => .absent
  | [(block, start)] =>
    match Entry.ofBlock (offset + start) block with
    | [] => .empty
    | list => .entries list
  | parts => .dividers parts.length

namespace Line

/-- The line with a place and a text that starts at `offset`. -/
def ofText (index offset : Nat) (text : List Char) : Line :=
  let (body, parts) := splitDividers text
  { index
    span := ⟨offset, offset + Text.byteLength text⟩
    raw := String.ofList text
    content := Content.ofBody body
    block := Block.ofParts offset parts }

/-- The number of a line as authors count. -/
def number (line : Line) : Nat := line.index + 1

/-- Whether someone speaks the line. -/
def isDialogue (line : Line) : Bool :=
  match line.content with
  | .dialogue .. => true
  | _ => false

/-- Who speaks the line. -/
def speaker? (line : Line) : Option Speaker :=
  match line.content with
  | .dialogue speaker _ _ => some speaker
  | _ => none

/-- The persona that speaks the line. -/
def persona? (line : Line) : Option Persona := line.speaker?.bind Speaker.persona?

/-- The keyword of a directive line. -/
def keyword? (line : Line) : Option Keyword :=
  match line.content with
  | .directive keyword _ => some keyword
  | _ => none

/-- The directive of a line whose arguments are sound. -/
def directive? (line : Line) : Option Directive := line.content.directive?

/-- The label that the line defines. -/
def definition? (line : Line) : Option String := line.directive?.bind Directive.definition?

/-- The modifiers that the line evaluates: the entries that mean something. -/
def modifiers (line : Line) : List Modifier :=
  if line.content.ignoresModifiers then []
  else line.block.toList.filterMap fun entry => (Modifier.ofEntry entry).toOption

/-- Whether the next line does not wait for this one. -/
def hasInterrupt (line : Line) : Bool := line.modifiers.contains .interrupt

/-- Whether the line asks for a flag. -/
def hasFlagGate (line : Line) : Bool := line.modifiers.any Modifier.isFlag

end Line
end Narrative
