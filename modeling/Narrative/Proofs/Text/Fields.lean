import Mathlib.Data.List.DropRight
import Narrative.Text.Fields
import Narrative.Text.Utf8

/-!
Laws of splitting and trimming. A list is a part without a separator, or such a part, a separator and the rest
(`splitOnP_induction`). A trimmed list is what is left between a piece at either end (`exists_trimmed`).
-/
namespace Narrative.Text

section
variable {α : Type} {sep : α → Bool}

theorem splitOnP_map {β : Type} (f : α → β) (sep : β → Bool) (xs : List α) :
    (xs.map f).splitOnP sep = (xs.splitOnP fun a => sep (f a)).map (List.map f) := by
  induction xs with
  | nil => rfl
  | cons a rest ih =>
    rw [List.map_cons, List.splitOnP_cons_eq_if_modifyHead, List.splitOnP_cons_eq_if_modifyHead, ih]
    by_cases stop : sep (f a) = true
    · simp [stop]
    · cases rest.splitOnP (fun a => sep (f a)) with
      | nil => simp [stop]
      | cons first others => simp [stop]

/-- Induction along the parts of a list between separators. -/
theorem splitOnP_induction (sep : α → Bool) {motive : List α → Prop}
    (part : ∀ xs, (∀ a ∈ xs, sep a = false) → motive xs)
    (more : ∀ xs s ys, (∀ a ∈ xs, sep a = false) → sep s = true → motive ys → motive (xs ++ s :: ys))
    (xs : List α) : motive xs := by
  induction long : xs.length using Nat.strongRecOn generalizing xs with
  | ind n ih =>
    have split := List.takeWhile_append_dropWhile (p := fun a => !sep a) (l := xs)
    have free : ∀ a ∈ xs.takeWhile (fun a => !sep a), sep a = false := by
      intro a here
      simpa using List.mem_takeWhile_imp here
    cases rest : xs.dropWhile (fun a => !sep a) with
    | nil =>
      rw [rest, List.append_nil] at split
      exact part xs (split ▸ free)
    | cons s ys =>
      have stop : sep s = true := by
        have first := List.head_dropWhile_not (fun a => !sep a) (l := xs) (by simp [rest])
        simpa [rest] using first
      rw [rest] at split
      rw [← split] at long ⊢
      exact more _ s ys free stop (ih ys.length (by simp at long; omega) ys rfl)

theorem subset_intercalate {s part : List α} {parts : List (List α)} (listed : part ∈ parts) :
    part ⊆ List.intercalate s parts := by
  induction parts with
  | nil => cases listed
  | cons first parts ih =>
    cases parts with
    | nil => simp [List.mem_singleton.mp listed, List.intercalate]
    | cons next rest =>
      rw [List.intercalate_cons_cons]
      rcases List.mem_cons.mp listed with rfl | later
      · exact List.subset_append_of_subset_left _ (List.subset_append_left _ _)
      · exact List.subset_append_of_subset_right _ (ih later)

theorem mem_of_mem_intercalate {s : List α} {parts : List (List α)} {a : α} (member : a ∈ List.intercalate s parts) :
    a ∈ s ∨ ∃ part ∈ parts, a ∈ part := by
  induction parts with
  | nil => cases member
  | cons part parts ih =>
    cases parts with
    | nil => exact .inr ⟨part, List.mem_singleton_self part, by simpa [List.intercalate] using member⟩
    | cons next rest =>
      rw [List.intercalate_cons_cons, List.mem_append, List.mem_append] at member
      rcases member with (inside | between) | later
      · exact .inr ⟨part, List.mem_cons_self .., inside⟩
      · exact .inl between
      · rcases ih later with between | ⟨found, listed, inside⟩
        · exact .inl between
        · exact .inr ⟨found, List.mem_cons_of_mem part listed, inside⟩

/-- A trimmed list is what is left of the list between a piece at either end that is dropped. -/
theorem exists_trimmed (drop : α → Bool) (xs : List α) :
    ∃ lead tail, xs = lead ++ trimBy drop xs ++ tail ∧ (∀ a ∈ lead, drop a = true) ∧
      (∀ a ∈ tail, drop a = true) ∧ (∀ a ∈ (trimBy drop xs).head?, drop a = false) ∧
      ∀ a ∈ (trimBy drop xs).getLast?, drop a = false := by
  have rest := List.rdropWhile_append_rtakeWhile (p := drop) (l := xs.dropWhile drop)
  refine ⟨xs.takeWhile drop, (xs.dropWhile drop).rtakeWhile drop, ?_, fun a => List.mem_takeWhile_imp,
    fun a => List.mem_rtakeWhile_imp, ?_, ?_⟩
  · calc xs = xs.takeWhile drop ++ xs.dropWhile drop := List.takeWhile_append_dropWhile.symm
      _ = xs.takeWhile drop ++ (trimBy drop xs ++ (xs.dropWhile drop).rtakeWhile drop) :=
        congrArg (xs.takeWhile drop ++ ·) rest.symm
      _ = _ := (List.append_assoc _ _ _).symm
  · intro a first
    have front : (xs.dropWhile drop).head? = some a := by
      have trimmed : ((xs.dropWhile drop).rdropWhile drop).head? = some a := first
      rw [← rest, List.head?_append, trimmed, Option.some_or]
    have there : xs.dropWhile drop ≠ [] := by
      intro none
      simp [none] at front
    have begins : (xs.dropWhile drop).head there = a :=
      Option.some.inj ((List.head?_eq_some_head there).symm.trans front)
    rw [← begins]
    exact List.head_dropWhile_not drop there
  · intro a last
    have left : (xs.dropWhile drop).rdropWhile drop ≠ [] := by
      rintro none
      have empty : trimBy drop xs = [] := none
      rw [empty] at last
      cases last
    have ends : ((xs.dropWhile drop).rdropWhile drop).getLast left = a :=
      Option.some.inj ((List.getLast?_eq_some_getLast left).symm.trans last)
    rw [← ends]
    exact eq_false_of_ne_true (List.rdropWhile_last_not drop _ left)

end

@[simp] theorem byteLength_append (xs ys : List Char) : byteLength (xs ++ ys) = byteLength xs + byteLength ys := by
  induction xs with
  | nil => simp [byteLength]
  | cons c rest ih => simp [byteLength, ih, Nat.add_assoc]

theorem byteLength_reverse (text : List Char) : byteLength text.reverse = byteLength text := by
  induction text with
  | nil => rfl
  | cons c rest ih =>
    rw [List.reverse_cons, byteLength_append, ih, byteLength]
    exact Nat.add_comm _ _

theorem byteLength_pos {text : List Char} (solid : text ≠ []) : 0 < byteLength text := by
  obtain ⟨c, rest, rfl⟩ := List.exists_cons_of_ne_nil solid
  exact Nat.add_pos_left c.utf8Size_pos _

end Narrative.Text
