import Mathlib.Data.List.DropRight
import Narrative.Text.Lines

/-!
Laws of lines. A text without a line feed is one line (`lines_of_free`), and a line feed ends a line, together with one
carriage return before it (`lines_append_feed`, `lines_append_return`).
-/
namespace Narrative.Text

/-- A character that neither ends a line nor begins its end belongs to the line that goes on. -/
private theorem lines_cons {c : Char} {rest line : List Char} {more : List (List Char)} (feed : c ≠ '\n')
    (plain : c = '\r' → rest.head? ≠ some '\n') (goesOn : lines rest = line :: more) :
    lines (c :: rest) = (c :: line) :: more := by
  rw [lines, goesOn]
  case x_1 => exact feed
  case x_2 =>
    rintro more rfl rfl
    exact plain rfl rfl

theorem lines_of_free {text : List Char} (free : '\n' ∉ text) (solid : text ≠ []) : lines text = [text] := by
  induction text with
  | nil => exact absurd rfl solid
  | cons c rest ih =>
    rw [List.mem_cons, not_or] at free
    by_cases none : rest = []
    · rw [none, lines]
      case x_1 => exact Ne.symm free.1
      case x_2 => exact fun more _ => nofun
      rfl
    · have later : c = '\r' → rest.head? ≠ some '\n' := fun _ first => free.2 (List.mem_of_head? first)
      exact lines_cons (Ne.symm free.1) later (ih free.2 none)

/-- A line feed ends a line that does not end in a carriage return. -/
theorem lines_append_feed {line : List Char} (free : '\n' ∉ line) (plain : line.getLast? ≠ some '\r')
    (rest : List Char) : lines (line ++ '\n' :: rest) = line :: lines rest := by
  induction line with
  | nil => rfl
  | cons c more ih =>
    rw [List.mem_cons, not_or] at free
    by_cases none : more = []
    · subst none
      have other : c = '\r' → ('\n' :: rest).head? ≠ some '\n' := by
        rintro rfl
        exact absurd rfl plain
      exact lines_cons (Ne.symm free.1) other rfl
    · rw [List.getLast?_cons_of_ne_nil none] at plain
      have later : c = '\r' → (more ++ '\n' :: rest).head? ≠ some '\n' := by
        rintro _ first
        rw [List.head?_append_of_ne_nil _ none] at first
        exact free.2 (List.mem_of_head? first)
      exact lines_cons (Ne.symm free.1) later (ih free.2 plain)

/-- One carriage return before a line feed belongs to the end of the line. -/
theorem lines_append_return {line : List Char} (free : '\n' ∉ line) (rest : List Char) :
    lines (line ++ '\r' :: '\n' :: rest) = line :: lines rest := by
  induction line with
  | nil => rfl
  | cons c more ih =>
    rw [List.mem_cons, not_or] at free
    have later : c = '\r' → (more ++ '\r' :: '\n' :: rest).head? ≠ some '\n' := by
      rintro _ first
      cases more with
      | nil => cases first
      | cons d others =>
        cases first
        exact free.2 (List.mem_cons_self ..)
    exact lines_cons (Ne.symm free.1) later (ih free.2)

example : lines "one\r\n\n\rtwo\r\r\nthree\r".toList = ["one", "", "\rtwo\r", "three\r"].map String.toList := by
  decide

end Narrative.Text
