import Narrative.Text.Blank
import Narrative.Text.Lowercase

/-!
Lower case, character by character. No counterpart of a capital is a capital (`settled_of_lowerChar`), so lower case is
the same in lower case (`lower_lower`). Blanks are no capitals, and what is not blank has no blank counterpart
(`not_isBlank_of_lowerChar`). Case does not see past a blank, so the text before a blank and the text after it are put
in lower case each by itself (`lowerFrom_append_blank`).
-/
namespace Narrative.Text

/-- What holds of the first code points holds of their characters. -/
theorem forall_of_lt {P : Char → Prop} {b : Nat} (every : ∀ n < b, P (Char.ofNat n)) (c : Char) (low : c.toNat < b) :
    P c := by
  have here := every c.toNat low
  rwa [Char.ofNat_toNat] at here

namespace CaseRun

/-- Whether a code point is one of a run. -/
def Has (run : CaseRun) (n : Nat) : Prop := run.first ≤ n ∧ n ≤ run.last ∧ (n - run.first) % run.step = 0

instance (run : CaseRun) (n : Nat) : Decidable (run.Has n) := inferInstanceAs (Decidable (_ ∧ _))

/-- The counterparts of the capitals of a run. -/
def counterparts (run : CaseRun) : CaseRun :=
  ⟨(run.first + run.shift).toNat, (run.last + run.shift).toNat, run.step, 0⟩

/-- Whether the code points of a run stand between those of another. -/
def alternates (run other : CaseRun) : Bool :=
  Nat.beq other.step 2 && (Nat.beq run.step 2 || Nat.beq run.first run.last) &&
    Nat.beq ((run.first - other.first) % 2) 1

/-- Whether the bounds and the steps of two runs show that no code point is one of both. -/
def avoids (run other : CaseRun) : Bool :=
  bif Nat.ble other.first run.last then bif Nat.ble run.first other.last then run.alternates other else true else true

theorem not_has_of_avoids {run other : CaseRun} (apart : run.avoids other = true) {n : Nat} (here : run.Has n) :
    ¬ other.Has n := by
  rintro ⟨low, high, place⟩
  obtain ⟨first, last, step⟩ := here
  have meets : other.first ≤ run.last ∧ run.first ≤ other.last := by omega
  simp only [avoids, Nat.ble_eq_true_of_le meets.1, Nat.ble_eq_true_of_le meets.2, cond_true, alternates,
    Bool.and_eq_true, Bool.or_eq_true, Nat.beq_eq] at apart
  obtain ⟨⟨two, between⟩, odd⟩ := apart
  rw [two] at place
  rcases between with two' | single
  · rw [two'] at step
    omega
  · omega

theorem has_counterparts {run : CaseRun} (positive : 0 ≤ run.first + run.shift) {n : Nat} (here : run.Has n) :
    run.counterparts.Has (n + run.shift).toNat := by
  obtain ⟨first, last, step⟩ := here
  refine ⟨?_, ?_, ?_⟩
  · simp only [counterparts]
    omega
  · simp only [counterparts]
    omega
  · have same : (n + run.shift).toNat - (run.first + run.shift).toNat = n - run.first := by omega
    simpa only [counterparts, same] using step

end CaseRun

/-- Every capital: those of ASCII, the one that becomes two characters, and those with a single counterpart beyond
    ASCII. -/
def capitalRuns : List CaseRun := ⟨0x41, 0x5A, 1, 32⟩ :: ⟨0x130, 0x130, 1, 0⟩ :: caseRuns

/-- A character that is no capital. -/
def IsSettled (c : Char) : Prop := ∀ run ∈ capitalRuns, ¬ run.Has c.toNat

instance (c : Char) : Decidable (IsSettled c) := inferInstanceAs (Decidable (∀ _ ∈ _, _))

private theorem counterparts_positive : ∀ run ∈ caseRuns, 0 ≤ run.first + run.shift := by decide +kernel

private theorem counterparts_avoid_capitals :
    caseRuns.all (fun run => capitalRuns.all run.counterparts.avoids) = true := by
  decide +kernel

private theorem capitalRuns_beyond_ascii :
    ∀ run ∈ capitalRuns, run.first = 0x41 ∧ run.last = 0x5A ∨ 0x80 ≤ run.first := by
  decide +kernel

theorem settled_of_ascii {c : Char} (ascii : c.toNat < 0x80) (small : c.toNat < 0x41 ∨ 0x5A < c.toNat) :
    IsSettled c := by
  rintro run member ⟨low, high, _⟩
  rcases capitalRuns_beyond_ascii run member with ⟨first, last⟩ | beyond <;> omega

/-- What a capital of a run becomes. -/
theorem settled_of_counterpart {run : CaseRun} (member : run ∈ caseRuns) {n : Nat} (here : run.Has n) :
    IsSettled (Char.ofNat (n + run.shift).toNat) := by
  have avoids := List.all_eq_true.mp counterparts_avoid_capitals run member
  by_cases valid : (n + run.shift).toNat.isValidChar
  · intro other capital
    rw [Char.ofNat, dif_pos valid]
    exact CaseRun.not_has_of_avoids (List.all_eq_true.mp avoids other capital) (CaseRun.has_counterparts
      (counterparts_positive run member) here)
  · rw [Char.ofNat, dif_neg valid]
    decide +kernel

private theorem toLower_of_ascii : ∀ c : Char, c.toNat < 0x80 →
    (c.toLower.toNat < 0x80 ∧ (c.toLower.toNat < 0x41 ∨ 0x5A < c.toLower.toNat)) ∧
      (c.toNat < 0x41 ∨ 0x5A < c.toNat → c.toLower = c) :=
  forall_of_lt (by decide +kernel)

private theorem has_iff {run : CaseRun} {n : Nat} :
    (decide (run.first ≤ n) && decide (n ≤ run.last) && (n - run.first) % run.step == 0) = true ↔ run.Has n := by
  simp [CaseRun.Has, and_assoc]

theorem settled_simpleLower {c : Char} (single : c ≠ '\u0130') : IsSettled (simpleLower c) := by
  unfold simpleLower
  split
  · rename_i ascii
    obtain ⟨inside, small⟩ := (toLower_of_ascii c ascii).1
    exact settled_of_ascii inside small
  · rename_i beyond
    split
    · rename_i run found
      have inside := List.find?_some found
      exact settled_of_counterpart (List.mem_of_find?_eq_some found) (has_iff.mp inside)
    · rename_i none
      intro run member here
      rcases List.mem_cons.mp member with rfl | member
      · obtain ⟨_, high, _⟩ := here
        simp only at high
        omega
      rcases List.mem_cons.mp member with rfl | member
      · obtain ⟨low, high, _⟩ := here
        have same : c.toNat = ('\u0130').toNat := Nat.le_antisymm high low
        exact single (Char.toNat_inj.mp same)
      · exact List.find?_eq_none.mp none run member (has_iff.mpr here)

/-- Whatever a character becomes is no capital. -/
theorem settled_of_lowerChar {before after : List Char} {c d : Char} (becomes : d ∈ lowerChar before c after) :
    IsSettled d := by
  unfold lowerChar at becomes
  split at becomes
  · have either : d = 'i' ∨ d = '\u0307' := by simpa using becomes
    rcases either with rfl | rfl <;> decide +kernel
  · rename_i single
    split at becomes
    · split at becomes <;> rw [List.mem_singleton.mp becomes] <;> decide +kernel
    · rw [List.mem_singleton.mp becomes]
      exact settled_simpleLower (by simpa using single)

/-- What is no capital stays as it is. -/
theorem lowerChar_of_settled {c : Char} (settled : IsSettled c) (before after : List Char) :
    lowerChar before c after = [c] := by
  have dotted : c ≠ '\u0130' := by
    rintro rfl
    exact absurd settled (by decide +kernel)
  have sigma : c ≠ '\u03A3' := by
    rintro rfl
    exact absurd settled (by decide +kernel)
  have same : simpleLower c = c := by
    unfold simpleLower
    split
    · rename_i ascii
      refine (toLower_of_ascii c ascii).2 ?_
      have outside := settled _ (List.mem_cons_self ..)
      simp only [CaseRun.Has, Nat.mod_one, and_true] at outside
      omega
    · split
      · rename_i run found
        have inside := List.find?_some found
        have member : run ∈ capitalRuns :=
          List.mem_cons_of_mem _ (List.mem_cons_of_mem _ (List.mem_of_find?_eq_some found))
        exact absurd (has_iff.mp inside) (settled run member)
      · rfl
  simp [lowerChar, dotted, sigma, same]

theorem lowerFrom_of_settled {before cs : List Char} (settled : ∀ c ∈ cs, IsSettled c) : lowerFrom before cs = cs := by
  induction cs generalizing before with
  | nil => rfl
  | cons c rest ih =>
    have others : lowerFrom (c :: before) rest = rest := ih fun d later => settled d (List.mem_cons_of_mem c later)
    rw [lowerFrom, lowerChar_of_settled (settled c (List.mem_cons_self ..)), others]
    rfl

theorem settled_of_lowerFrom {before cs : List Char} {d : Char} (becomes : d ∈ lowerFrom before cs) : IsSettled d := by
  induction cs generalizing before with
  | nil => cases becomes
  | cons c rest ih =>
    rcases List.mem_append.mp becomes with here | later
    · exact settled_of_lowerChar here
    · exact ih later

/-- Lower case changes nothing in lower case. -/
theorem lower_lower (s : String) : lower (lower s) = lower s := by
  have settled : ∀ c ∈ (lower s).toList, IsSettled c := by
    intro c here
    exact settled_of_lowerFrom (by simpa [lower] using here)
  rw [lower, lowerFrom_of_settled settled, String.ofList_toList]

/-- The ranges of the blank code points. -/
def blankRanges : List (Nat × Nat) :=
  [(9, 13), (0x20, 0x20), (0x85, 0x85), (0xA0, 0xA0), (0x1680, 0x1680), (0x2000, 0x200A), (0x2028, 0x2029),
    (0x202F, 0x202F), (0x205F, 0x205F), (0x3000, 0x3000)]

theorem isBlank_iff (c : Char) : isBlank c = true ↔ ∃ range ∈ blankRanges, range.1 ≤ c.toNat ∧ c.toNat ≤ range.2 := by
  simp only [isBlank, blankRanges, Bool.or_eq_true, Bool.and_eq_true, decide_eq_true_eq, beq_iff_eq, List.mem_cons,
    List.not_mem_nil, or_false, exists_eq_or_imp, exists_eq_left]
  omega

/-- No capital has a blank counterpart: the runs, moved by their shifts, pass by every blank. -/
private theorem caseRuns_pass_blanks : ∀ run ∈ caseRuns, ∀ range ∈ blankRanges,
    (run.last : Int) + run.shift < range.1 ∨ (range.2 : Int) < run.first + run.shift := by
  decide +kernel

private theorem blankRanges_positive : ∀ range ∈ blankRanges, 0 < range.1 := by decide

private theorem not_isBlank_toLower : ∀ c : Char, c.toNat < 0x80 → isBlank c = false → isBlank c.toLower = false :=
  forall_of_lt (by decide +kernel)

private theorem blank_of_ofNat {n : Nat} (blank : isBlank (Char.ofNat n) = true) :
    ∃ range ∈ blankRanges, range.1 ≤ n ∧ n ≤ range.2 := by
  by_cases valid : n.isValidChar
  · rw [Char.ofNat, dif_pos valid] at blank
    exact (isBlank_iff _).mp blank
  · rw [Char.ofNat, dif_neg valid] at blank
    exact absurd blank (by decide)

/-- What is not blank has no blank counterpart. -/
theorem not_isBlank_simpleLower {c : Char} (filled : isBlank c = false) : isBlank (simpleLower c) = false := by
  unfold simpleLower
  split
  · rename_i ascii
    exact not_isBlank_toLower c ascii filled
  · split
    · rename_i run found
      have here := List.mem_of_find?_eq_some found
      have inside := List.find?_some found
      simp only [Bool.and_eq_true, decide_eq_true_eq] at inside
      rw [Bool.eq_false_iff]
      intro blank
      obtain ⟨range, member, low, high⟩ := blank_of_ofNat blank
      have apart := caseRuns_pass_blanks run here range member
      have positive := blankRanges_positive range member
      omega
    · exact filled

theorem not_isBlank_of_lowerChar {before after : List Char} {c d : Char} (filled : isBlank c = false)
    (becomes : d ∈ lowerChar before c after) : isBlank d = false := by
  unfold lowerChar at becomes
  split at becomes
  · have either : d = 'i' ∨ d = '\u0307' := by simpa using becomes
    rcases either with rfl | rfl <;> decide
  · split at becomes
    · split at becomes <;> rw [List.mem_singleton.mp becomes] <;> decide
    · rw [List.mem_singleton.mp becomes]
      exact not_isBlank_simpleLower filled

/-- A word is a word in lower case. -/
theorem not_isBlank_of_lowerFrom {before cs : List Char} (filled : ∀ c ∈ cs, isBlank c = false) :
    ∀ d ∈ lowerFrom before cs, isBlank d = false := by
  induction cs generalizing before with
  | nil => simp [lowerFrom]
  | cons c rest ih =>
    obtain ⟨first, others⟩ := List.forall_mem_cons.mp filled
    intro d becomes
    rcases List.mem_append.mp becomes with here | later
    · exact not_isBlank_of_lowerChar first here
    · exact ih others d later

theorem isEmpty_lowerFrom (before cs : List Char) : (lowerFrom before cs).isEmpty = cs.isEmpty := by
  cases cs with
  | nil => rfl
  | cons c rest =>
    have some_char : lowerChar before c rest ≠ [] := by
      unfold lowerChar
      split
      · simp
      · split <;> simp
    simp [lowerFrom, some_char]

private theorem blankRanges_pass_capitals : ∀ range ∈ blankRanges, ∀ run ∈ capitalRuns,
    range.2 < run.first ∨ run.last < range.1 := by
  decide +kernel

/-- Blanks are no capitals, and case neither passes over them nor finds a case in them. -/
private theorem caseless_of_blank {c : Char} (blank : isBlank c = true) :
    IsSettled c ∧ isCaseIgnorable c = false ∧ isCased c = false := by
  have every : ∀ range ∈ blankRanges, ∀ k < range.2 + 1 - range.1,
      isCaseIgnorable (Char.ofNat (range.1 + k)) = false ∧ isCased (Char.ofNat (range.1 + k)) = false := by
    decide +kernel
  obtain ⟨range, member, low, high⟩ := (isBlank_iff c).mp blank
  have here := every range member (c.toNat - range.1) (by omega)
  rw [Nat.add_sub_cancel' low, Char.ofNat_toNat] at here
  refine ⟨?_, here⟩
  rintro run capital ⟨first, last, _⟩
  rcases blankRanges_pass_capitals range member run capital with apart | apart <;> omega

section
variable {b : Char} (blank : isBlank b = true)
include blank

theorem meetsCased_append_blank (xs ys : List Char) : meetsCased (xs ++ b :: ys) = meetsCased xs := by
  obtain ⟨_, seen, caseless⟩ := caseless_of_blank blank
  induction xs with
  | nil => simp [meetsCased, seen, caseless]
  | cons c rest ih =>
    by_cases skipped : isCaseIgnorable c = true
    · simpa [meetsCased, skipped] using ih
    · simp [meetsCased, skipped]

theorem lowerFrom_append_of_blank (before earlier cs : List Char) :
    lowerFrom (before ++ b :: earlier) cs = lowerFrom before cs := by
  induction cs generalizing before with
  | nil => rfl
  | cons c rest ih =>
    have here : lowerChar (before ++ b :: earlier) c rest = lowerChar before c rest := by
      simp only [lowerChar, meetsCased_append_blank blank]
    have later : lowerFrom (c :: (before ++ b :: earlier)) rest = lowerFrom (c :: before) rest := ih (c :: before)
    rw [lowerFrom, lowerFrom, here, later]

/-- Case does not see past a blank. -/
theorem lowerFrom_append_blank (before xs ys : List Char) :
    lowerFrom before (xs ++ b :: ys) = lowerFrom before xs ++ b :: lowerFrom [] ys := by
  induction xs generalizing before with
  | nil =>
    have after : lowerFrom (b :: before) ys = lowerFrom [] ys := lowerFrom_append_of_blank blank [] before ys
    simp only [List.nil_append, lowerFrom, after, lowerChar_of_settled (caseless_of_blank blank).1]
    rfl
  | cons c rest ih =>
    have here : lowerChar before c (rest ++ b :: ys) = lowerChar before c rest := by
      simp only [lowerChar, meetsCased_append_blank blank]
    rw [List.cons_append, lowerFrom, lowerFrom, here, ih, List.append_assoc]

end

/-- The blanks of a text in lower case are those of the text. -/
theorem mem_of_mem_lowerFrom {before cs : List Char} {b : Char} (blank : isBlank b = true)
    (becomes : b ∈ lowerFrom before cs) : b ∈ cs := by
  induction cs generalizing before with
  | nil => cases becomes
  | cons c rest ih =>
    rcases List.mem_append.mp becomes with here | later
    · by_cases from_blank : isBlank c = true
      · rw [lowerChar_of_settled (caseless_of_blank from_blank).1, List.mem_singleton] at here
        rw [here]
        exact List.mem_cons_self ..
      · rw [not_isBlank_of_lowerChar (eq_false_of_ne_true from_blank) here] at blank
        cases blank
    · exact List.mem_cons_of_mem c (ih later)

end Narrative.Text
