/-!
Lines of a text. A line feed ends a line, and a carriage return right before it belongs to the end; a carriage return
anywhere else is part of its line. The last line need not be ended.
-/
namespace Narrative.Text

/-- The lines of a text without their ends. -/
def lines : List Char → List (List Char)
  | [] => []
  | '\n' :: rest => [] :: lines rest
  | '\r' :: '\n' :: rest => [] :: lines rest
  | c :: rest =>
    match lines rest with
    | [] => [[c]]
    | line :: more => (c :: line) :: more

end Narrative.Text
