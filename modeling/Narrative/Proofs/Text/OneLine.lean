import Narrative.Proofs.Text.Fields
import Narrative.Proofs.Text.Lowercase

/-!
Texts on one line. Texts without line feeds have none when they are put together or put in lower case
(`OneLine.append`, `OneLine.intercalate`, `OneLine.lower`), and neither have written numbers (`oneLine_repr`,
`oneLine_repr_int`).
-/
namespace Narrative.Text

/-- A text without line feeds. -/
def OneLine (text : String) : Prop := '\n' ∉ text.toList

instance (text : String) : Decidable (OneLine text) := inferInstanceAs (Decidable ('\n' ∉ text.toList))

theorem oneLine_ofList {cs : List Char} : OneLine (String.ofList cs) ↔ '\n' ∉ cs := by
  rw [OneLine, String.toList_ofList]

theorem OneLine.append {first second : String} (one : OneLine first) (one' : OneLine second) :
    OneLine (first ++ second) := by
  rw [OneLine, String.toList_append, List.mem_append, not_or]
  exact ⟨one, one'⟩

theorem OneLine.intercalate {sep : String} {parts : List String} (one : OneLine sep)
    (each : ∀ part ∈ parts, OneLine part) :
    OneLine (sep.intercalate parts) := by
  rw [OneLine, String.toList_intercalate]
  intro feed
  rcases mem_of_mem_intercalate feed with inside | ⟨part, listed, inside⟩
  · exact one inside
  · obtain ⟨text, member, rfl⟩ := List.mem_map.mp listed
    exact each text member inside

theorem OneLine.lower {text : String} (one : OneLine text) : OneLine (lower text) := by
  rw [Text.lower, oneLine_ofList]
  exact fun feed => one (mem_of_mem_lowerFrom (by decide) feed)

@[simp] theorem oneLine_repr (n : Nat) : OneLine n.repr := by
  rw [OneLine, Nat.toList_repr]
  intro feed
  have digit := Nat.isDigit_of_mem_toDigits (by decide) (by decide) feed
  exact absurd digit (by decide)

@[simp] theorem oneLine_repr_int (n : Int) : OneLine n.repr := by
  cases n with
  | ofNat n => exact oneLine_repr n
  | negSucc n =>
    have sign : OneLine "-" := by decide
    exact sign.append (oneLine_repr (n + 1))

end Narrative.Text
