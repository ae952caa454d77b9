/-!
Splitting a list at separators, and trimming it. The parts between separators hold none of them
(`mem_of_mem_splitOnP`) and keep everything else in order (`flatten_splitOnP`).
-/
namespace Narrative.Text

/-- The parts that are not empty. -/
def filledFields {α : Type} (sep : α → Bool) (xs : List α) : List (List α) :=
  (xs.splitOnP sep).filter (!·.isEmpty)

/-- The part before the first element that satisfies `sep`, and what follows that element if there is one. -/
def cut {α : Type} (sep : α → Bool) : List α → List α × Option (List α)
  | [] => ([], none)
  | a :: rest => if sep a then ([], some rest) else ((cut sep rest).1.cons a, (cut sep rest).2)

/-- A list without the elements at either end that satisfy `drop`. -/
def trimBy {α : Type} (drop : α → Bool) (xs : List α) : List α :=
  ((xs.dropWhile drop).reverse.dropWhile drop).reverse

/-- Separators apart, nothing is lost and nothing moves. -/
theorem flatten_splitOnP {α : Type} (sep : α → Bool) (xs : List α) :
    (xs.splitOnP sep).flatten = xs.filter (!sep ·) := by
  induction xs with
  | nil => rfl
  | cons a rest ih =>
    rw [List.splitOnP_cons_eq_if_modifyHead]
    by_cases stop : sep a = true
    · simp [stop, ih]
    · cases shape : rest.splitOnP sep with
      | nil => exact absurd shape (List.splitOnP_ne_nil sep rest)
      | cons first others => simp_all

theorem mem_of_mem_splitOnP {α : Type} {sep : α → Bool} {xs field : List α} {a : α}
    (part : field ∈ xs.splitOnP sep) (inside : a ∈ field) : a ∈ xs ∧ sep a = false := by
  have kept : a ∈ (xs.splitOnP sep).flatten := List.mem_flatten.2 ⟨field, part, inside⟩
  rw [flatten_splitOnP] at kept
  simpa using List.mem_filter.1 kept

end Narrative.Text
