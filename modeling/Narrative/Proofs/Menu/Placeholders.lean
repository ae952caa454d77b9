import Narrative.Menu.Style
import Narrative.Proofs.Text.Expansion

/-!
What the options of a menu read. Their placeholders are filled in one after the other, so what is put in for one can
be taken for another. Where the braces of a text are closed, the option reads as if all placeholders had been filled in
at once, each with its value as the later ones leave it; so with the values themselves where no value brings a
placeholder whose turn is still to come (`filled_in_at_once`).
-/
namespace Narrative

/-- What stands for the placeholders of an option in a context. -/
def Choice.fills (ctx : Option Context) : List (String × String) :=
  [("source", (ctx.bind (·.source)).getD ""), ("string", (ctx.bind (·.string)).getD ""),
    ("number", toString ((ctx.map (·.number)).getD 0))]

/-- What stands for the placeholders of an option's line. -/
def MenuStyle.fills (marker text : String) : List (String × String) := [("marker", marker), ("text", text)]

theorem Choice.braceless_fills (ctx : Option Context) : ∀ fill ∈ Choice.fills ctx, Text.Braceless fill.1.toList := by
  simp only [Choice.fills, List.forall_mem_cons, List.not_mem_nil, false_implies, implies_true, and_true]
  decide

theorem MenuStyle.braceless_fills (marker text : String) :
    ∀ fill ∈ MenuStyle.fills marker text, Text.Braceless fill.1.toList := by
  simp only [MenuStyle.fills, List.forall_mem_cons, List.not_mem_nil, false_implies, implies_true, and_true]
  decide

theorem Choice.text_eq_fillInTurn (c : Choice) (ctx : Option Context) :
    c.text ctx = Text.fillInTurn (Choice.fills ctx) c.template := rfl

theorem MenuStyle.optionLine_eq_fillInTurn (style : MenuStyle) (marker text : String) :
    style.optionLine marker text = Text.fillInTurn (MenuStyle.fills marker text) style.optionFormat := rfl

/-- Where all braces are closed, an option reads as its template with all placeholders filled in at once: each with its
    value that has the later ones filled in, and with the value itself where no value brings a later one. So does the
    line of an option with its format, where the braces of its mark are closed; those of its text need not be. -/
theorem filled_in_at_once (c : Choice) (ctx : Option Context) (style : MenuStyle) (marker text : String) :
    (Text.Closed c.template → (∀ fill ∈ (Choice.fills ctx).dropLast, Text.Closed fill.2) →
      c.text ctx = Text.expand (Text.settled (Choice.fills ctx)) c.template ∧
        (Text.Untangled (Choice.fills ctx) → c.text ctx = Text.expand (Choice.fills ctx) c.template)) ∧
    (Text.Closed style.optionFormat → Text.Closed marker →
      style.optionLine marker text = Text.expand (Text.settled (MenuStyle.fills marker text)) style.optionFormat ∧
        (Text.Untangled (MenuStyle.fills marker text) →
          style.optionLine marker text = Text.expand (MenuStyle.fills marker text) style.optionFormat)) := by
  refine ⟨fun template values => ?_, fun format mark => ?_⟩
  · have names := Choice.braceless_fills ctx
    rw [Choice.text_eq_fillInTurn]
    exact ⟨Text.fillInTurn_eq_expand names values template, Text.fillInTurn_of_untangled names values template⟩
  · have names := MenuStyle.braceless_fills marker text
    have values : ∀ fill ∈ (MenuStyle.fills marker text).dropLast, Text.Closed fill.2 := by
      simpa [MenuStyle.fills] using mark
    rw [MenuStyle.optionLine_eq_fillInTurn]
    exact ⟨Text.fillInTurn_eq_expand names values format, Text.fillInTurn_of_untangled names values format⟩

/-- Braces in a value are shown where they make up no placeholder that is still to be filled in. Where they do, the
    placeholder in the value is filled in. -/
theorem filled_in_of_braces :
    let c : Choice := { id := "back", template := "\x7bsource\x7d\x7bstring\x7d \x7bhint\x7d (\x7bnumber\x7d)" }
    let kept : Option Context := some { source := some "\x7bcabin\x7d", string := some "\x7bsource\x7d", number := -3 }
    let filled : Option Context :=
      some { source := some "\x7bstring\x7d", string := some "\x7bnumber\x7d", number := 3 }
    let style : MenuStyle := {}
    c.text kept = Text.expand (Choice.fills kept) c.template ∧
      c.text kept = "\x7bcabin\x7d\x7bsource\x7d \x7bhint\x7d (-3)" ∧
      c.text filled = Text.expand (Text.settled (Choice.fills filled)) c.template ∧
      c.text filled = "33 \x7bhint\x7d (3)" ∧
      style.optionLine "\x7bmarker\x7d" "\x7bmarker\x7d" =
        Text.expand (MenuStyle.fills "\x7bmarker\x7d" "\x7bmarker\x7d") style.optionFormat := by
  intro c kept filled style
  have template : Text.Closed c.template := by decide +kernel
  have law := fun ctx => filled_in_at_once c ctx style "\x7bmarker\x7d" "\x7bmarker\x7d"
  exact ⟨((law kept).1 template (by decide +kernel)).2 (by decide +kernel), by decide +kernel,
    ((law filled).1 template (by decide +kernel)).1, by decide +kernel,
    ((law kept).2 (by decide +kernel) (by decide +kernel)).2 (by decide +kernel)⟩

/-- Not every value is shown as it is: the source brings the placeholder of the number, and the mark that of the
    text. -/
theorem not_filled_in_of_echo :
    let c : Choice := { id := "back", template := "\x7bsource\x7d" }
    let ctx : Option Context := some { source := some "\x7bnumber\x7d", number := 3 }
    let style : MenuStyle := { optionFormat := "\x7bmarker\x7d \x7btext\x7d", greyedMarker := "\x7btext\x7d" }
    c.text ctx = "3" ∧ Text.expand (Choice.fills ctx) c.template = "\x7bnumber\x7d" ∧
      style.optionLine style.greyedMarker "Leave." = "Leave. Leave." ∧
      Text.expand (MenuStyle.fills style.greyedMarker "Leave.") style.optionFormat = "\x7btext\x7d Leave." := by
  decide +kernel

end Narrative
