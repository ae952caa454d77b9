import Narrative.Text.Break.Class

/-!
The places in a line at which it may be broken, by the rules of the Unicode line breaking algorithm. Whether a
place is one of them depends on the class of the character after it, and on what `Behind` keeps of the
characters before it.
-/
namespace Narrative.Text

namespace BreakClass

/-- The letters. -/
def letters : List BreakClass := [letter, hebrew]
/-- The sounds and syllables of Hangul. -/
def hangul : List BreakClass := [lead, vowel, coda, openSyllable, closedSyllable]
/-- Ideographs, and pictures set like them. -/
def pictographs : List BreakClass := [ideograph, futurePicture, pictureBase, tone]
/-- The units of numbers. -/
def units : List BreakClass := [unitBefore, unitAfter]

/-- The classes that stay together where one follows the other without a space. -/
def bonds : List (List BreakClass × List BreakClass) := [
  (digit :: letters, opening :: digit :: letters),
  ([parenthesis], digit :: letters),
  ([separator], digit :: letters),
  ([hyphen], [digit]),
  ([slash], [digit, hebrew]),
  (letters, units),
  (units, letters),
  ([closing, parenthesis, digit], units),
  (units, [opening, wideOpening, digit]),
  ([unitBefore], pictographs ++ hangul),
  (pictographs ++ hangul, [unitAfter]),
  ([lead], [lead, vowel, openSyllable, closedSyllable]),
  ([vowel, openSyllable], [vowel, coda]),
  ([coda, closedSyllable], [coda]),
  ([futurePicture, pictureBase], [tone])]

/-- Whether one class does not part from the one after it, where no space is between them. -/
def clings (before after : BreakClass) : Bool :=
  if before == quotation || after == quotation then true
  else if before == object || after == object then false
  else before == breakBefore || [breakAfter, hyphen, nonStarter, inseparable].contains after ||
    bonds.any fun (firsts, seconds) => firsts.contains before && seconds.contains after

/-- Whether one class does not part from the one after it, whatever spaces are between them. -/
def clingsAcross (before after : BreakClass) : Bool :=
  [bond, closing, parenthesis, exclamation, separator, slash].contains after
    || [opening, wideOpening].contains before
    || before == quotation && [opening, wideOpening].contains after
    || [closing, parenthesis].contains before && after == nonStarter
    || before == dash && after == dash

end BreakClass

/-- What stands before a place in a line, as far as a break there depends on it. A line begins as if another
had ended before it. -/
structure Behind where
  /-- The class of the last character that is neither a space nor a mark on another. -/
  last : BreakClass := .lineEnd
  /-- Whether spaces follow that character. -/
  spaced : Bool := false
  /-- Whether a joiner stands right before the place. -/
  joined : Bool := false
  /-- Whether a letter of Hebrew stands before a hyphen. -/
  hyphened : Bool := false
  /-- Whether the last regional indicator is the first of a pair. -/
  unpaired : Bool := false

namespace Behind

/-- Whether a mark belongs to the character before it. -/
def carriesMarks (b : Behind) : Bool := !b.spaced && !List.contains [.lineEnd, .gap, .space] b.last

/-- What is behind the place after a character of a class. -/
def advance (b : Behind) : BreakClass → Behind
  | .space => { last := if b.last == .lineEnd then .space else b.last, spaced := true }
  | .mark => if b.carriesMarks then { b with joined := false } else { last := .letter }
  | .joiner => if b.carriesMarks then { b with joined := true } else { last := .letter, joined := true }
  | next => {
      last := next
      hyphened := !b.spaced && b.last == .hebrew && (next == .hyphen || next == .breakAfter)
      unpaired := next == .indicator && (b.spaced || b.last != .indicator || !b.unpaired) }

/-- Whether a character of a class does not part from what is behind it. -/
def holds (b : Behind) (next : BreakClass) : Bool :=
  b.last.clingsAcross next || !b.spaced &&
    (b.last == .bond || b.last == .glue || next == .glue && !List.contains [.breakAfter, .hyphen] b.last ||
      b.last.clings next || next != .object && b.hyphened || next == .indicator && b.unpaired)

/-- Whether a line may be broken before a character of a class. -/
def allows (b : Behind) (next : BreakClass) : Bool :=
  if b.last == .lineEnd then true
  else if [.lineEnd, .space, .gap].contains next then false
  else if b.last == .gap then true
  else if b.joined then false
  else if [.mark, .joiner].contains next then !b.carriesMarks && !b.holds .letter
  else !b.holds next

end Behind
end Narrative.Text
