import Narrative.Text.Alphanumeric
import Narrative.Text.Break.Place
import Narrative.Text.Fields
import Narrative.Text.Glyph
import Narrative.Text.Width.Follower

/-!
A text broken into lines of at most so many columns. A line is cut into pieces where it may be broken, and of
all ways to lay them out the cheapest is taken: each line has a cost, and so has the room that is left on it.
-/
namespace Narrative.Text

/-- The number of columns that a glyph takes by itself; control characters take none. -/
def Glyph.columns (g : Glyph) : Nat :=
  if g.silent || g.char.toNat < 0x20 || isBetween 0x7F 0x9F g.char then 0 else columnsAlone g.char

/-- Whether a character is a hyphen, at which a line is not broken for what the character is. -/
def isHyphen (c : Char) : Bool := c == '-' || c == '\u00AD'

/-! ## Parts of a line -/

/-- What is behind the place after a glyph; what is silent changes nothing. -/
def Behind.past (b : Behind) (g : Glyph) : Behind := if g.silent then b else b.advance (.ofChar g.char)

/-- Whether a line may be broken after a glyph, where others follow. What is silent belongs to the glyph after
it, so no break stands after a silent glyph, and only what is shown counts. -/
def breaksAfter (behind : Behind) (g : Glyph) (rest : List Glyph) : Bool :=
  !g.silent && !isHyphen g.char &&
    (rest.find? (!·.silent)).any fun next => (behind.past g).allows (.ofChar next.char)

/-- The parts of a line between the places at which it may be broken, hyphens aside. -/
def segments (behind : Behind) : List Glyph → List (List Glyph)
  | [] => [[]]
  | g :: rest =>
    let after := segments (behind.past g) rest
    if breaksAfter behind g rest then [g] :: after else after.modifyHead (g :: ·)

/-- A list of parts with the last two put together. -/
def joinLast {α : Type} : List (List α) → List (List α)
  | [part, last] => [part ++ last]
  | part :: rest => part :: joinLast rest
  | [] => []

/-- The segments of a line, the last two in one where the line ends in a hyphen. -/
def lineSegments (gs : List Glyph) : List (List Glyph) :=
  if ((gs.filter (!·.silent)).getLast?).any (isHyphen ·.char) then joinLast (segments {} gs) else segments {} gs

/-- The parts of a word, each but the last with a hyphen at its end that stands between letters or digits;
`inside` says whether the character before the word is one. -/
def hyphenated (inside : Bool) : List Glyph → List (List Glyph)
  | [] => [[]]
  | g :: rest =>
    let after := hyphenated (isAlphanumeric g.char) rest
    if inside && g.char == '-' && rest.head?.any (isAlphanumeric ·.char) then [g] :: after
    else after.modifyHead (g :: ·)

/-- The parts of a word, each as long as so many columns admit, but no shorter than a glyph; `used` is the
number of columns before the word in its part. -/
def slices (columns used : Nat) : List Glyph → List (List Glyph)
  | [] => [[]]
  | g :: rest =>
    if 0 < used && columns < used + g.columns then [] :: (slices columns g.columns rest).modifyHead (g :: ·)
    else (slices columns (used + g.columns) rest).modifyHead (g :: ·)

/-! ## Pieces -/

/-- A part of a line that stays together, and the number of spaces after it. -/
structure Piece where
  glyphs : List Glyph
  spaces : Nat := 0

namespace Piece

/-- The columns of a piece, its spaces aside. -/
def columns (p : Piece) : Nat := (p.glyphs.map Glyph.columns).foldl (· + ·) 0

/-- The piece that glyphs with spaces at their end make. -/
def ofGlyphs (gs : List Glyph) : Piece :=
  let shown := (gs.reverse.dropWhile (·.char == ' ')).reverse
  ⟨shown, gs.length - shown.length⟩

/-- The parts of a piece as pieces; the spaces follow the last. -/
def split (p : Piece) : List (List Glyph) → List Piece
  | [] => []
  | [part] => [⟨part, p.spaces⟩]
  | part :: rest => ⟨part, 0⟩ :: p.split rest

/-- The pieces of a line, each no wider than so many columns if it has more than one glyph, and an empty piece
in front. -/
def ofLine (columns : Nat) (gs : List Glyph) : List Piece :=
  let words := (lineSegments gs).map ofGlyphs
  let parts := words.flatMap fun p => p.split (hyphenated false p.glyphs)
  ⟨[], 0⟩ :: parts.flatMap fun p => if columns < p.columns then p.split (slices columns 0 p.glyphs) else [p]

end Piece

/-! ## Layouts -/

/-- The pieces on a line that is not full yet. -/
structure Row where
  /-- The pieces, the last one first. -/
  pieces : List Piece := []
  /-- The columns up to the end of the last piece, its spaces aside. -/
  columns : Nat := 0

namespace Row

/-- The line with another piece on it. -/
def add (row : Row) (p : Piece) : Row :=
  ⟨p :: row.pieces, row.columns + ((row.pieces.head?.map (·.spaces)).getD 0 + p.columns)⟩

/-- The cost of a line: 1000, and 2500 for each column too many, or the square of the number of columns left if
other lines follow, or 25 for a single piece on the last line that fills less than a fourth of it. -/
def cost (columns : Nat) (isLast : Bool) (row : Row) : Nat :=
  1000 +
    if columns < row.columns then 2500 * (row.columns - columns)
    else if !isLast then (columns - row.columns) * (columns - row.columns)
    else if row.pieces.length == 1 && 4 * row.columns < columns then 25
    else 0

/-- The text of a line, without the spaces after its last piece. -/
def text (row : Row) : List Char :=
  match row.pieces with
  | [] => []
  | last :: before =>
    (before.reverse.flatMap fun p => p.glyphs.map (·.char) ++ List.replicate p.spaces ' ') ++
      last.glyphs.map (·.char)

end Row

/-- The lines that are full, the last one first, and what they cost. -/
structure Layout where
  lines : List (List Char) := []
  cost : Nat := 0

/-- The cheaper of two layouts, the first if both cost the same. -/
def Layout.cheaper (a b : Layout) : Layout := if b.cost < a.cost then b else a

/-- A layout and the line after it, which is not full. -/
structure Draft where
  behind : Layout := {}
  row : Row := {}

namespace Draft

/-- The draft with another piece on its last line. -/
def add (p : Piece) (d : Draft) : Draft := { d with row := d.row.add p }

/-- The layout of a draft with its last line ended. -/
def finish (columns : Nat) (isLast : Bool) (d : Draft) : Layout :=
  ⟨d.row.text :: d.behind.lines, d.behind.cost + d.row.cost columns isLast⟩

/-- The cheapest of the layouts of drafts with their last lines ended, the first of those that cost the same. -/
def cheapest (columns : Nat) (isLast : Bool) : List Draft → Layout
  | [] => {}
  | d :: rest => rest.foldl (fun best other => best.cheaper (other.finish columns isLast)) (d.finish columns isLast)

end Draft

/-- The cheapest layout of pieces. The drafts are the cheapest ones of the pieces so far for each piece that
their last line may begin with, in the order of those. -/
def layOut (columns : Nat) (drafts : List Draft) : List Piece → Layout
  | [] => {}
  | [p] => Draft.cheapest columns true (drafts.map (·.add p))
  | p :: rest =>
    let drafts := drafts.map (·.add p)
    layOut columns (drafts ++ [{ behind := Draft.cheapest columns false drafts }]) rest

/-- The lines of a text without line feeds. -/
def wrapLine (columns : Nat) (cs : List Char) : List (List Char) :=
  (layOut columns [{}] (Piece.ofLine columns (Glyph.ofChars cs))).lines.reverse

/-- The lines of a text, of at most so many columns each. -/
def wrap (columns : Nat) (s : String) : List String :=
  ((s.toList.splitOn '\n').flatMap (wrapLine columns)).map String.ofList

end Narrative.Text
