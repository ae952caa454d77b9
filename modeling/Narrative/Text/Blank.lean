import Narrative.Text.Fields

/-!
White space: the Unicode property White_Space, the text without it at both ends, and the words
between it. Words are never empty and hold no blank (`not_blank_of_mem_words`).
-/
namespace Narrative.Text

/-- The characters with the Unicode property White_Space. -/
def isBlank (c : Char) : Bool :=
  let n := c.toNat
  (9 ≤ n && n ≤ 13) || n == 0x20 || n == 0x85 || n == 0xA0 || n == 0x1680 || (0x2000 ≤ n && n ≤ 0x200A)
    || n == 0x2028 || n == 0x2029 || n == 0x202F || n == 0x205F || n == 0x3000

/-- The characters without blanks at either end. -/
def trimChars (cs : List Char) : List Char := trimBy isBlank cs

/-- The text without blanks at either end. -/
def trim (s : String) : String := String.ofList (trimChars s.toList)

/-- The maximal runs of characters that are not blank. -/
def wordsOf (cs : List Char) : List (List Char) := filledFields isBlank cs

/-- The words of a text. -/
def words (s : String) : List String := (wordsOf s.toList).map String.ofList

theorem not_blank_of_mem_words {cs w : List Char} {c : Char} (word : w ∈ wordsOf cs) (inside : c ∈ w) :
    isBlank c = false :=
  (mem_of_mem_splitOnP (List.mem_filter.1 word).1 inside).2

end Narrative.Text
