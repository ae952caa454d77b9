import Narrative.Proofs.Text.Fields
import Narrative.Proofs.Text.Lowercase

/-!
The words of a text. Blanks at the ends of a text are between no words (`words_trim`), a blank parts the words before
it from those after it (`words_append_blank`), and lower case acts word by word (`words_lower`). So a text has the same
words in lower case as its normal form, in which they stand with single blanks between them (`words_lower_normal`).
-/
namespace Narrative.Text

/-- The normal form of a text: its words in lower case with single blanks between them. -/
def normal (s : String) : String := String.intercalate " " (words (lower s))

theorem flatten_wordsOf (cs : List Char) : (wordsOf cs).flatten = cs.filter (!isBlank ·) := by
  rw [wordsOf, filledFields, List.flatten_filter_not_isEmpty, flatten_splitOnP]

theorem wordsOf_append_blank {b : Char} (blank : isBlank b = true) (xs ys : List Char) :
    wordsOf (xs ++ b :: ys) = wordsOf xs ++ wordsOf ys := by
  rw [wordsOf, filledFields, List.splitOnP_append_cons _ _ blank, List.filter_append]
  rfl

theorem wordsOf_of_blank {cs : List Char} (blank : ∀ c ∈ cs, isBlank c = true) : wordsOf cs = [] := by
  induction cs with
  | nil => rfl
  | cons b rest ih =>
    obtain ⟨first, others⟩ := List.forall_mem_cons.mp blank
    calc wordsOf (b :: rest) = wordsOf [] ++ wordsOf rest := wordsOf_append_blank first [] rest
      _ = [] := ih others

theorem wordsOf_append_of_blank {tail : List Char} (blank : ∀ c ∈ tail, isBlank c = true) (xs : List Char) :
    wordsOf (xs ++ tail) = wordsOf xs := by
  cases tail with
  | nil => rw [List.append_nil]
  | cons b rest =>
    obtain ⟨first, others⟩ := List.forall_mem_cons.mp blank
    rw [wordsOf_append_blank first, wordsOf_of_blank others, List.append_nil]

theorem wordsOf_of_blank_append {lead : List Char} (blank : ∀ c ∈ lead, isBlank c = true) (xs : List Char) :
    wordsOf (lead ++ xs) = wordsOf xs := by
  induction lead with
  | nil => rfl
  | cons b rest ih =>
    obtain ⟨first, others⟩ := List.forall_mem_cons.mp blank
    calc wordsOf (b :: (rest ++ xs)) = wordsOf [] ++ wordsOf (rest ++ xs) := wordsOf_append_blank first [] (rest ++ xs)
      _ = wordsOf xs := ih others

theorem wordsOf_trimChars (cs : List Char) : wordsOf (trimChars cs) = wordsOf cs := by
  obtain ⟨lead, tail, whole, before, after, _, _⟩ := exists_trimmed isBlank cs
  calc wordsOf (trimChars cs) = wordsOf (lead ++ trimChars cs ++ tail) := by
        rw [wordsOf_append_of_blank after, wordsOf_of_blank_append before]
    _ = wordsOf cs := by rw [trimChars, ← whole]

theorem words_trim (s : String) : words (trim s) = words s := by
  rw [words, trim, String.toList_ofList, wordsOf_trimChars, words]

theorem words_append_blank (s t : String) : words (s ++ " " ++ t) = words s ++ words t := by
  have parted : wordsOf (s.toList ++ ' ' :: t.toList) = wordsOf s.toList ++ wordsOf t.toList :=
    wordsOf_append_blank (by decide) _ _
  simp [words, parted]

/-- What a word is: it has no blank inside, and something else. -/
theorem words_of_mem {s w : String} (word : w ∈ words s) : words w = [w] := by
  obtain ⟨cs, member, rfl⟩ := List.mem_map.mp word
  have filled : ∀ c ∈ cs, isBlank c = false := fun c inside => not_blank_of_mem_words member inside
  have some_char : cs.isEmpty = false := by simpa using (List.mem_filter.mp member).2
  simp [words, wordsOf, filledFields, List.splitOnP_eq_singleton filled, some_char]

theorem words_intercalate {ws : List String} (single : ∀ w ∈ ws, words w = [w]) :
    words (String.intercalate " " ws) = ws := by
  induction ws with
  | nil => rfl
  | cons w rest ih =>
    obtain ⟨first, others⟩ := List.forall_mem_cons.mp single
    cases rest with
    | nil => simpa using first
    | cons next rest =>
      calc words (String.intercalate " " (w :: next :: rest))
          = words (w ++ " " ++ String.intercalate " " (next :: rest)) := by
            rw [String.intercalate_cons_cons]
        _ = words w ++ words (String.intercalate " " (next :: rest)) := words_append_blank _ _
        _ = w :: next :: rest := by rw [first, ih others]; rfl

theorem splitOnP_lowerFrom (cs : List Char) :
    (lowerFrom [] cs).splitOnP isBlank = (cs.splitOnP isBlank).map (lowerFrom []) := by
  -- On the pieces of the list: a piece without blanks has none in lower case, and case does not see past a blank.
  induction cs using splitOnP_induction isBlank with
  | part xs filled =>
    rw [List.splitOnP_eq_singleton filled, List.splitOnP_eq_singleton (not_isBlank_of_lowerFrom filled)]
    rfl
  | more xs b ys filled blank ih =>
    rw [lowerFrom_append_blank blank, List.splitOnP_append_cons _ _ blank, List.splitOnP_append_cons _ _ blank,
      List.map_append, ih, List.splitOnP_eq_singleton filled,
      List.splitOnP_eq_singleton (not_isBlank_of_lowerFrom filled)]
    rfl

theorem wordsOf_lowerFrom (cs : List Char) : wordsOf (lowerFrom [] cs) = (wordsOf cs).map (lowerFrom []) := by
  rw [wordsOf, wordsOf, filledFields, filledFields, splitOnP_lowerFrom, List.filter_map]
  simp only [Function.comp_def, isEmpty_lowerFrom]

theorem words_lower (s : String) : words (lower s) = (words s).map lower := by
  simp [words, lower, wordsOf_lowerFrom, Function.comp_def]

theorem words_lower_normal (s : String) : words (lower (normal s)) = words (lower s) := by
  have same : words (normal s) = words (lower s) := words_intercalate fun w word => words_of_mem word
  rw [words_lower, same, words_lower, List.map_map]
  exact List.map_congr_left fun w _ => lower_lower w

theorem words_ne_nil {s : String} (filled : trim s ≠ "") : words s ≠ [] := by
  obtain ⟨_, _, _, _, _, first, _⟩ := exists_trimmed isBlank s.toList
  rw [← words_trim, words, trim, String.toList_ofList]
  intro wordless
  cases left : trimChars s.toList with
  | nil => exact filled (by rw [trim, left])
  | cons c rest =>
    have visible : isBlank c = false := first c (by rw [← trimChars, left]; rfl)
    have kept : (c :: rest).filter (!isBlank ·) = [] := by
      rw [← flatten_wordsOf, ← left, List.map_eq_nil_iff.mp wordless, List.flatten_nil]
    simp [visible] at kept

theorem normal_ne_empty {s : String} (filled : trim s ≠ "") : normal s ≠ "" := by
  intro empty
  have wordless := words_lower_normal s
  rw [empty, words_lower s] at wordless
  exact words_ne_nil filled (List.map_eq_nil_iff.mp wordless.symm)

end Narrative.Text
