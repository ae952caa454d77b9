import Narrative.Command.Request
import Narrative.Number.Integer
import Narrative.Proofs.Text.Words

/-!
Numbers and blanks are no commands. What is left of a line that is not blank is never read as empty
(`read_trim_ne_empty`), and a text that writes an integer is never read as a request (`read_of_integer`), so
that a menu may look for numbers first.
-/
namespace Narrative

/-- Whether a character can stand in an integer. -/
def Number.isNumeral (c : Char) : Bool := c.isDigit || c == '-' || c == '+'

private theorem numerals_of_natural {cs : List Char} {n : Nat} (read : Number.natural? cs = some n) :
    cs ≠ [] ∧ ∀ c ∈ cs, Number.isNumeral c = true := by
  unfold Number.natural? at read
  split at read
  · cases read
  · rename_i sound
    simp only [Bool.or_eq_true, List.isEmpty_iff, Bool.not_eq_true', not_or, Bool.not_eq_false,
      List.all_eq_true] at sound
    exact ⟨sound.1, fun c here => by simp [Number.isNumeral, sound.2 c here]⟩

private theorem natural_of_signed {cs : List Char} {n : Int} (read : Number.signed? cs = some n) :
    ∃ digits m, Number.natural? digits = some m ∧ (cs = '-' :: digits ∨ cs = '+' :: digits ∨ cs = digits) := by
  unfold Number.signed? at read
  split at read
  · rename_i digits
    cases value : Number.natural? digits with
    | none => simp [value] at read
    | some m => exact ⟨digits, m, value, .inl rfl⟩
  · rename_i digits
    cases value : Number.natural? digits with
    | none => simp [value] at read
    | some m => exact ⟨digits, m, value, .inr (.inl rfl)⟩
  · cases value : Number.natural? cs with
    | none => simp [value] at read
    | some m => exact ⟨cs, m, value, .inr (.inr rfl)⟩

/-- An integer is written in numerals. -/
theorem numerals_of_integer {s : String} {n : Int} (read : Number.integer? s = some n) :
    s.toList ≠ [] ∧ ∀ c ∈ s.toList, Number.isNumeral c = true := by
  obtain ⟨digits, m, value, written⟩ := natural_of_signed (Option.filter_eq_some_iff.mp read).1
  obtain ⟨some_digit, numerals⟩ := numerals_of_natural value
  rcases written with written | written | written <;> rw [written]
  · exact ⟨by simp, List.forall_mem_cons.mpr ⟨rfl, numerals⟩⟩
  · exact ⟨by simp, List.forall_mem_cons.mpr ⟨rfl, numerals⟩⟩
  · exact ⟨some_digit, numerals⟩

private theorem low_of_numeral {c : Char} (numeral : Number.isNumeral c = true) : c.toNat < 0x41 := by
  simp only [Number.isNumeral, Char.isDigit, Bool.or_eq_true, Bool.and_eq_true, decide_eq_true_eq, beq_iff_eq]
    at numeral
  rcases numeral with (⟨_, high⟩ | rfl) | rfl
  · exact Nat.lt_of_le_of_lt (UInt32.le_iff_toNat_le.mp high) (by decide)
  · decide
  · decide

private theorem not_isBlank_of_numeral : ∀ c : Char, c.toNat < 0x41 → Number.isNumeral c = true →
    Text.isBlank c = false :=
  Text.forall_of_lt (by decide +kernel)

/-- An integer is one word, and the same in lower case. -/
theorem words_lower_of_integer {s : String} {n : Int} (read : Number.integer? s = some n) :
    Text.words (Text.lower s) = [s] := by
  obtain ⟨some_numeral, numerals⟩ := numerals_of_integer read
  have low : ∀ c ∈ s.toList, c.toNat < 0x41 := fun c here => low_of_numeral (numerals c here)
  have joined : ∀ c ∈ s.toList, Text.isBlank c = false :=
    fun c here => not_isBlank_of_numeral c (low c here) (numerals c here)
  have settled : ∀ c ∈ s.toList, Text.IsSettled c :=
    fun c here => Text.settled_of_ascii (Nat.lt_trans (low c here) (by decide)) (.inl (low c here))
  simp [Text.words, Text.lower, Text.lowerFrom_of_settled settled, Text.wordsOf, Text.filledFields,
    List.splitOnP_eq_singleton joined, some_numeral]

namespace Request

private theorem ofWords_ne_empty [Likeness] {words : List String} (filled : words ≠ []) :
    ofWords words ≠ .error .empty := by
  have made : ∀ command argument, make command argument ≠ .error .empty := by
    intro command argument
    unfold make
    split <;> simp
  cases words with
  | nil => exact absurd rfl filled
  | cons verb rest =>
    simp only [ofWords]
    split
    · exact made _ _
    · split
      · exact made _ _
      · simp

/-- Blanks at the ends of an input do not matter. -/
theorem read_trim [Likeness] (input : String) : read (Text.trim input) = read input := by
  rw [read, Text.words_lower, Text.words_trim, ← Text.words_lower, read]

/-- What is left of a line that is not blank is not read as empty. -/
theorem read_trim_ne_empty [Likeness] {line : String} (filled : Text.trim line ≠ "") :
    read (Text.trim line) ≠ .error .empty := by
  rw [read_trim, read]
  refine ofWords_ne_empty ?_
  rw [Text.words_lower]
  simpa using Text.words_ne_nil filled

/-- No word of a command begins with a numeral. -/
private theorem vocabulary_without_numerals :
    ∀ word ∈ Command.allVerbs ++ (Command.directions ++ Command.galleryKeywords).flatten,
      word.toList.head?.any Number.isNumeral = false := by
  decide +kernel

private theorem bareCommand_eq_none {word : String}
    (foreign : word ∉ (Command.directions ++ Command.galleryKeywords).flatten) : bareCommand? word = none := by
  have refused : ∀ command, command = Command.directGo ∨ command = Command.directGallery →
      command.accept? word = none := by
    simp only [List.flatten_append, List.mem_append, List.mem_flatten, not_or, not_exists, not_and] at foreign
    rintro command (rfl | rfl)
    · simpa [Command.accept?, Command.row] using foreign.1
    · simpa [Command.accept?, Command.row] using foreign.2
  rw [bareCommand?, List.find?_eq_none]
  intro command either
  simp [refused command (by simpa using either)]

private theorem ofVerb_eq_none {word : String} (foreign : word ∉ Command.allVerbs) : Command.ofVerb? word = none := by
  rw [Command.ofVerb?, List.find?_eq_none]
  intro command member called
  exact foreign (List.mem_flatMap.mpr ⟨command, member, by simpa using called⟩)

/-- An integer is no request. -/
theorem read_of_integer [Likeness] {s : String} {n : Int} (number : Number.integer? s = some n) :
    ∃ misread, read s = .error misread := by
  obtain ⟨some_numeral, numerals⟩ := numerals_of_integer number
  have first : s.toList.head?.any Number.isNumeral = true := by
    obtain ⟨c, rest, written⟩ := List.exists_cons_of_ne_nil some_numeral
    simp [written, numerals c (by simp [written])]
  have foreign : s ∉ Command.allVerbs ++ (Command.directions ++ Command.galleryKeywords).flatten := by
    intro called
    rw [vocabulary_without_numerals s called] at first
    cases first
  rw [List.mem_append, not_or] at foreign
  rw [read, words_lower_of_integer number, ofWords, bareCommand_eq_none foreign.2, ofVerb_eq_none foreign.1]
  exact ⟨_, rfl⟩

end Request
end Narrative
