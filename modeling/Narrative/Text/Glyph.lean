/-!
Characters as a terminal takes them. A control sequence, which begins with an escape, shows nothing: one with a
bracket `[` goes on to the next character from `@` to `~`, one with a bracket `]` to a bell or to an escape and
a backslash, and any other is one character long.
-/
namespace Narrative.Text

/-- A character as a terminal takes it. -/
structure Glyph where
  char : Char
  /-- Whether it is part of a control sequence. -/
  silent : Bool := false

/-- Where in a control sequence a terminal is. -/
inductive ControlPlace where
  | outside
  /-- After the escape. -/
  | begun
  /-- After a bracket `[`. -/
  | control
  /-- After a bracket `]`; `escaped` says that an escape stands right before the place. -/
  | command (escaped : Bool)

namespace ControlPlace

/-- The place after a character. -/
def advance : ControlPlace → Char → ControlPlace
  | outside, '\x1b' => begun
  | outside, _ => outside
  | begun, '[' => control
  | begun, ']' => command false
  | begun, _ => outside
  | control, c => if '@' ≤ c && c ≤ '~' then outside else control
  | command escaped, c => if c == '\x07' || escaped && c == '\\' then outside else command (c == '\x1b')

/-- Whether a character belongs to a control sequence. -/
def controls : ControlPlace → Char → Bool
  | outside, c => c == '\x1b'
  | _, _ => true

end ControlPlace

namespace Glyph

/-- The glyphs of a text from a place on. -/
def ofCharsFrom (place : ControlPlace) : List Char → List Glyph
  | [] => []
  | c :: rest => ⟨c, place.controls c⟩ :: ofCharsFrom (place.advance c) rest

/-- The glyphs of a text. -/
def ofChars : List Char → List Glyph := ofCharsFrom .outside

end Glyph
end Narrative.Text
