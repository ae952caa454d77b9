import Narrative.Text.Width.Picture
import Narrative.Text.Width.Unspaced
import Narrative.Text.Width.Wide

/-!
Characters whose width depends on what follows them. Letters of some scripts share columns, pictures are put
together from several, and a variation selector asks for the character before it to be shown as a picture or
as a text. So a text is measured from its end, and `Ahead` is what has to be known of the part that has been
measured.
-/
namespace Narrative.Text

/-- What stands after a character, as far as the width of the character depends on it. -/
inductive Follower where
  | other
  /-- A skin tone. -/
  | tone
  /-- A regional indicator. -/
  | indicator
  /-- Several regional indicators. -/
  | indicators
  | picture
  /-- A joiner and a picture. -/
  | joinedPicture
  /-- A keycap, a joiner and a picture. -/
  | joinedKeycap
  /-- A regional indicator, a joiner and a picture. -/
  | joinedIndicator
  /-- Pairs of regional indicators, a joiner and a picture; `extra` says that one more stands in front. -/
  | joinedPairs (extra : Bool)
  /-- The end of the tags of a flag, with so many letters and digits, a joiner and a picture. -/
  | joinedTags (letters digits : Nat)
  /-- The vowel E of Kirat Rai. -/
  | raiE
  /-- The vowel AI of Kirat Rai. -/
  | raiAi
  /-- A form of the Arabic letter Alef. -/
  | alef
  /-- The Hebrew letter Lamed; `joined` says that a joiner stands in front. -/
  | lamed (joined : Bool)
  /-- The Buginese letter Ya. -/
  | ya (joined : Bool)
  /-- The Buginese vowel I, joined to the letter Ya. -/
  | vowelYa
  /-- A consonant of Tifinagh. -/
  | tifinagh (joined : Bool)
  /-- The joiner of Tifinagh and a consonant. -/
  | tifinaghJoiner
  /-- A second tone letter of Lisu. -/
  | lisuTone
  /-- The Orkhon letter I of Old Turkic. -/
  | orkhon (joined : Bool)
  /-- A letter of Khmer that can be written below another. -/
  | khmer
  deriving DecidableEq

/-- What is ahead of a character. -/
structure Ahead where
  follower : Follower := .other
  /-- Whether a selector asks for a text. -/
  asText : Bool := false
  /-- Whether a selector asks for a picture. -/
  asPicture : Bool := false
  deriving DecidableEq

/-- Whether the code point of a character lies between two others, bounds included. -/
def isBetween (low high : Nat) (c : Char) : Bool := low ≤ c.toNat && c.toNat ≤ high

def isUnspaced (c : Char) : Bool := inRanges unspacedRanges c.toNat
def isPicture (c : Char) : Bool := inRanges pictureRanges c.toNat
def isSelectable (c : Char) : Bool := inRanges selectableRanges c.toNat
def isTone (c : Char) : Bool := isBetween 0x1F3FB 0x1F3FF c
def isIndicator (c : Char) : Bool := isBetween 0x1F1E6 0x1F1FF c
def joiner : Char := '\u200D'

/-- Whether a character is a picture that a selector turns into a text of one column. -/
def isTextPicture (c : Char) : Bool :=
  isSelectable c && isPicture c && !isBetween 0x1F200 0x1F2FF c

/-- The consonants of Tifinagh that join. -/
def isTifinagh (c : Char) : Bool := isBetween 0x2D31 0x2D65 c || c.toNat == 0x2D6F

/-- The letters of Khmer that can be written below another. -/
def isKhmer (c : Char) : Bool :=
  inRanges [(0x1780, 0x1782), (0x1784, 0x1787), (0x1789, 0x178C), (0x178E, 0x1793), (0x1795, 0x1798),
    (0x179B, 0x179D), (0x17A0, 0x17A0), (0x17A2, 0x17A2), (0x17A7, 0x17A7), (0x17AB, 0x17AC),
    (0x17AF, 0x17AF)] c.toNat

/-- The forms of the Arabic letter Alef. -/
def isAlef (c : Char) : Bool :=
  inRanges [(0x622, 0x623), (0x625, 0x625), (0x627, 0x627), (0x671, 0x673), (0x675, 0x675), (0x773, 0x774),
    (0x870, 0x882)] c.toNat

/-- The forms of the Arabic letter Lam. -/
def isLam (c : Char) : Bool :=
  inRanges [(0x644, 0x644), (0x6B5, 0x6B8), (0x76A, 0x76A), (0x8A6, 0x8A6), (0x8C7, 0x8C7)] c.toNat

/-- The marks that letters join across. -/
def isJoiningMark (c : Char) : Bool :=
  inRanges [(0x34F, 0x34F), (0x17B4, 0x17B5), (0x180B, 0x180D), (0x180F, 0x180F), (0x200D, 0x200D),
    (0xFE00, 0xFE0F), (0xE0100, 0xE01EF)] c.toNat

/-- The number of columns of a character on its own. -/
def columnsAlone (c : Char) : Nat :=
  if c.toNat ≤ 0xA0 then 1
  else if c.toNat == 0x17D8 then 3
  else if isUnspaced c then 0
  else if inRanges wideRanges c.toNat then 2
  else 1

namespace Follower

/-- What a character is for the one before it. -/
def ofChar (c : Char) : Follower :=
  if isPicture c then picture
  else if isTone c then tone
  else if isIndicator c then indicator
  else if isAlef c then alef
  else if isKhmer c then khmer
  else if isTifinagh c then tifinagh false
  else match c.toNat with
    | 0x05DC => lamed false
    | 0x1A10 => ya false
    | 0xA4FC | 0xA4FD => lisuTone
    | 0x10C03 => orkhon false
    | 0x16D67 => raiE
    | 0x16D68 => raiAi
    | _ => other

/-- Whether selectors do not part the letter from the one before it. -/
def isLetter : Follower → Bool
  | alef | lamed _ | ya _ | vowelYa | tifinagh _ | tifinaghJoiner | lisuTone | orkhon _ | khmer => true
  | _ => false

/-- Whether marks do not part the letter from the one before it. -/
def joinsAcross (f : Follower) : Bool := f.isLetter && f != alef

/-- Whether the character before a selector is joined to a picture. -/
def isJoined : Follower → Bool
  | joinedPicture | joinedKeycap => true
  | _ => false

/-- The letter with a joiner in front. -/
def join : Follower → Follower
  | lamed _ => lamed true
  | ya _ => ya true
  | tifinagh _ => tifinagh true
  | orkhon _ => orkhon true
  | f => f

/-- The columns that a character adds to the tags of a flag that is joined to a picture. -/
def tagged? (letters digits : Nat) (c : Char) : Option (Int × Follower) :=
  if isBetween 0xE0061 0xE007A c && digits == 0 && letters < 6 then some (0, joinedTags (letters + 1) 0)
  else if isBetween 0xE0030 0xE0039 c && digits < 3 && (digits != 0 || letters < 5) then
    some (0, joinedTags letters (digits + 1))
  else if c.toNat == 0x1F3F4 && (digits == 3 || (digits == 0 && 3 ≤ letters)) then some (0, picture)
  else none

/-- The columns that a character adds if it and its follower are shown as one, and what they are then for the
character before them. -/
def merge? (f : Follower) (c : Char) : Option (Int × Follower) :=
  let onto (applies : Bool) (columns : Int) (merged : Follower) : Option (Int × Follower) :=
    if applies then some (columns, merged) else none
  match f with
  | other | lamed false | ya false | orkhon false => none
  | alef =>
    if isLam c then some (0, other) else onto (isUnspaced c && !inRanges severingRanges c.toNat) 0 alef
  | lamed true => onto (c.toNat == 0x05D0) 0 other
  | khmer => onto (c.toNat == 0x17D2) (-1) other
  | ya true => onto (c.toNat == 0x1A17) 0 vowelYa
  | vowelYa => onto (c.toNat == 0x1A15) 0 other
  | tifinagh joined => if c.toNat == 0x2D7F then some (1, tifinaghJoiner) else onto (joined && isTifinagh c) 0 other
  | tifinaghJoiner => onto (isTifinagh c) (-1) other
  | lisuTone => onto (isBetween 0xA4F8 0xA4FB c) 0 other
  | orkhon true => onto (c.toNat == 0x10C32) 0 other
  | tone => if c == joiner then some (0, joinedPicture) else onto (inRanges tonedRanges c.toNat) 0 picture
  | indicator => onto (isIndicator c) 1 indicators
  | indicators => if c == joiner then some (0, joinedPicture) else onto (isIndicator c) 1 indicators
  | picture => onto (c == joiner) 0 joinedPicture
  | joinedPicture =>
    if c.toNat == 0x20E3 then some (0, joinedKeycap)
    else if isIndicator c then some (1, joinedIndicator)
    else if isTone c then some (0, tone)
    else if c.toNat == 0xE007F then some (0, joinedTags 0 0)
    else onto (isPicture c) 0 picture
  | joinedKeycap => none
  | joinedIndicator => onto (isIndicator c) (-1) (joinedPairs false)
  | joinedPairs extra =>
    if c == joiner then some (0, joinedPicture)
    else if extra then onto (isIndicator c) (-1) (joinedPairs false)
    else onto (isIndicator c) 3 (joinedPairs true)
  | joinedTags letters digits => tagged? letters digits c
  | raiE =>
    if c.toNat == 0x16D63 || c.toNat == 0x16D69 then some (0, other)
    else if c.toNat == 0x16D67 then some (0, raiAi)
    else onto (c.toNat == 0x16D68) 1 raiE
  | raiAi => onto (c.toNat == 0x16D63) 0 other

end Follower

namespace Ahead

/-- What is ahead of a selector that asks for a picture. -/
def selectPicture (a : Ahead) : Ahead :=
  if a.follower.isLetter || a.follower.isJoined then { a with asPicture := true } else { asPicture := true }

/-- What is ahead of a selector that asks for a text. -/
def selectText (a : Ahead) : Ahead := if a.follower.isLetter then { a with asText := true } else { asText := true }

/-- What is ahead where no picture can be selected. -/
def dropPicture (a : Ahead) : Ahead :=
  if !a.asPicture then a else if a.follower.isLetter then { a with asPicture := false } else {}

/-- The columns that a character adds to what is ahead of it, and what is ahead then. -/
def extend (a : Ahead) (c : Char) : Int × Ahead :=
  if a.asPicture && isSelectable c then (if a.follower.isJoined then 0 else 2, { follower := .picture })
  else
    let a := a.dropPicture
    if c.toNat ≤ 0xA0 then (1, {})
    else if c.toNat == 0xFE0F then (0, a.selectPicture)
    else if c.toNat == 0xFE0E then (0, a.selectText)
    else if a.asText && isTextPicture c then (1, {})
    else if a.follower.joinsAcross && c == joiner then (0, { follower := a.follower.join })
    else if a.follower.joinsAcross && isJoiningMark c then (0, { follower := a.follower })
    else
      match a.follower.merge? c with
      | some (columns, follower) => (columns, { follower })
      | none => (columnsAlone c, { follower := .ofChar c })

end Ahead
end Narrative.Text
