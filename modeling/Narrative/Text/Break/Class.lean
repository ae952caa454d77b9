import Narrative.Text.Break.Ranges
import Narrative.Text.Ranges

/-!
What a character is for breaking lines, after the Unicode property Line_Break.
-/
namespace Narrative.Text

/-- What a character is for breaking lines. -/
inductive BreakClass where
  /-- A letter, or what is set like one. -/
  | letter
  | hebrew
  | digit
  | ideograph
  /-- A place among the ideographs that is set aside for a picture. -/
  | futurePicture
  /-- A picture that carries a skin tone. -/
  | pictureBase
  /-- A skin tone. -/
  | tone
  /-- A regional indicator. -/
  | indicator
  /-- A leading consonant of Hangul. -/
  | lead
  /-- A vowel of Hangul. -/
  | vowel
  /-- A final of Hangul. -/
  | coda
  /-- A syllable of Hangul without a final. -/
  | openSyllable
  /-- A syllable of Hangul with a final. -/
  | closedSyllable
  /-- A mark that belongs to the character before it. -/
  | mark
  | joiner
  /-- The end of a line. -/
  | lineEnd
  | space
  /-- A space of no width. -/
  | gap
  /-- A word joiner. -/
  | bond
  | glue
  | hyphen
  | dash
  | breakAfter
  | breakBefore
  /-- The place of an object. -/
  | object
  | opening
  /-- An opening bracket of East Asian scripts. -/
  | wideOpening
  | closing
  /-- A closing parenthesis. -/
  | parenthesis
  | quotation
  | exclamation
  | nonStarter
  | inseparable
  /-- A separator of numbers. -/
  | separator
  | slash
  /-- A unit that stands before a number. -/
  | unitBefore
  /-- A unit that stands after a number. -/
  | unitAfter
  deriving DecidableEq

namespace BreakClass

/-- The code points of the classes that have lists of them. -/
def listed : List (BreakClass × List (Nat × Nat)) := [
  (mark, markRanges), (ideograph, ideographRanges), (futurePicture, futurePictureRanges),
  (pictureBase, pictureBaseRanges), (breakAfter, breakAfterRanges), (breakBefore, breakBeforeRanges),
  (opening, openingRanges), (wideOpening, wideOpeningRanges), (closing, closingRanges), (digit, digitRanges),
  (nonStarter, nonStarterRanges), (exclamation, exclamationRanges), (unitBefore, unitBeforeRanges),
  (unitAfter, unitAfterRanges), (glue, glueRanges), (quotation, quotationRanges), (separator, separatorRanges),
  (hebrew, hebrewRanges), (inseparable, inseparableRanges), (lineEnd, [(0xA, 0xD), (0x85, 0x85), (0x2028, 0x2029)]),
  (space, [(0x20, 0x20)]), (parenthesis, [(0x29, 0x29), (0x5D, 0x5D)]), (hyphen, [(0x2D, 0x2D)]),
  (slash, [(0x2F, 0x2F)]), (lead, [(0x1100, 0x115F), (0xA960, 0xA97C)]),
  (vowel, [(0x1160, 0x11A7), (0xD7B0, 0xD7C6)]), (coda, [(0x11A8, 0x11FF), (0xD7CB, 0xD7FB)]),
  (gap, [(0x200B, 0x200B)]), (joiner, [(0x200D, 0x200D)]), (dash, [(0x2014, 0x2014), (0x2E3A, 0x2E3B)]),
  (bond, [(0x2060, 0x2060), (0xFEFF, 0xFEFF)]), (object, [(0xFFFC, 0xFFFC)]), (indicator, [(0x1F1E6, 0x1F1FF)]),
  (tone, [(0x1F3FB, 0x1F3FF)])]

/-- The class of a character. The syllables of Hangul are ordered by their first two sounds; of each 28 that
begin alike, the first has no final. -/
def ofChar (c : Char) : BreakClass :=
  if 0xAC00 ≤ c.toNat && c.toNat ≤ 0xD7A3 then
    if (c.toNat - 0xAC00) % 28 == 0 then openSyllable else closedSyllable
  else ((listed.find? fun (_, ranges) => inRanges ranges c.toNat).map (·.1)).getD letter

end BreakClass
end Narrative.Text
