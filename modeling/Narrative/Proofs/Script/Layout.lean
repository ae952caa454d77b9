import Narrative.Proofs.Script.Blocks

/-!
Where things stand in a text. A span covers a piece of a text if it reaches from the boundary of one character to that
of another, and the piece is what is between them (`Span.Covers`). Elements are laid out in a text if each covers its
own piece, one after the other, and only blanks are left between the pieces (`Laid`).
-/
namespace Narrative

/-- In a text that starts at `pos`, the span covers a piece of it. -/
def Span.Covers (span : Span) (pos : Nat) (text piece : List Char) : Prop :=
  ∃ before after, text = before ++ piece ++ after ∧
    span = ⟨pos + Text.byteLength before, pos + Text.byteLength before + Text.byteLength piece⟩

/-- Elements are laid out in a text that starts at `pos`, in order: each is written as a piece of the text, where that
    piece stands, and before, between and behind these pieces there are blanks only. -/
inductive Laid {α : Type} (blanks : List Char) (WrittenAs : Nat → List Char → α → Prop) :
    Nat → List α → List Char → Prop where
  | nil {pos : Nat} {gap : List Char} (blank : gap ⊆ blanks) : Laid blanks WrittenAs pos [] gap
  | cons {pos : Nat} {gap piece text : List Char} {a : α} {rest : List α} (blank : gap ⊆ blanks)
      (written : WrittenAs (pos + Text.byteLength gap) piece a)
      (later : Laid blanks WrittenAs (pos + Text.byteLength gap + Text.byteLength piece) rest text) :
      Laid blanks WrittenAs pos (a :: rest) (gap ++ piece ++ text)

namespace Span.Covers
variable {span : Span} {pos : Nat} {text piece : List Char}

theorem slice_eq (covers : span.Covers pos text piece) : Entry.slice pos span.start span.stop text = piece := by
  obtain ⟨before, after, rfl, rfl⟩ := covers
  exact Entry.slice_piece pos before piece after

theorem behind {before : List Char} (covers : span.Covers (pos + Text.byteLength before) text piece) :
    span.Covers pos (before ++ text) piece := by
  obtain ⟨first, last, rfl, rfl⟩ := covers
  refine ⟨before ++ first, last, by simp, ?_⟩
  rw [Text.byteLength_append, Nat.add_assoc]

theorem in_front {after : List Char} (covers : span.Covers pos text piece) : span.Covers pos (text ++ after) piece := by
  obtain ⟨first, last, rfl, rfl⟩ := covers
  exact ⟨first, last ++ after, by simp, rfl⟩

end Span.Covers

namespace Laid
variable {α : Type} {blanks : List Char} {WrittenAs : Nat → List Char → α → Prop} {pos : Nat} {text : List Char}
  {elements : List α}

/-- An element at the very beginning of a text. -/
theorem put {a : α} {piece : List Char} (written : WrittenAs pos piece a)
    (later : Laid blanks WrittenAs (pos + Text.byteLength piece) elements text) :
    Laid blanks WrittenAs pos (a :: elements) (piece ++ text) :=
  .cons (List.nil_subset _) written later

/-- Every element is written as a piece of the text, where that piece stands. -/
theorem exists_piece (laid : Laid blanks WrittenAs pos elements text) {a : α} (member : a ∈ elements) :
    ∃ before piece after, text = before ++ piece ++ after ∧ WrittenAs (pos + Text.byteLength before) piece a := by
  induction laid with
  | nil => cases member
  | @cons pos gap piece text a rest blank written later ih =>
    rcases List.mem_cons.mp member with rfl | behind
    · exact ⟨gap, piece, text, rfl, written⟩
    · obtain ⟨before, found, after, rfl, written'⟩ := ih behind
      refine ⟨gap ++ piece ++ before, found, after, by simp, ?_⟩
      simpa [Nat.add_assoc] using written'

section
variable {place : α → Span}
  (placed : ∀ start piece a, WrittenAs start piece a → place a = ⟨start, start + Text.byteLength piece⟩)
include placed

theorem covers (laid : Laid blanks WrittenAs pos elements text) {a : α} (member : a ∈ elements) :
    ∃ piece, (place a).Covers pos text piece ∧ WrittenAs (place a).start piece a := by
  obtain ⟨before, piece, after, rfl, written⟩ := laid.exists_piece member
  have here := placed _ _ _ written
  refine ⟨piece, ⟨before, after, rfl, here⟩, ?_⟩
  rw [here]
  exact written

/-- The elements stand within the text. -/
theorem bounds (laid : Laid blanks WrittenAs pos elements text) {a : α} (member : a ∈ elements) :
    pos ≤ (place a).start ∧ (place a).stop ≤ pos + Text.byteLength text := by
  obtain ⟨before, piece, after, rfl, written⟩ := laid.exists_piece member
  rw [placed _ _ _ written, Text.byteLength_append, Text.byteLength_append]
  dsimp only
  omega

/-- Of two elements the first ends before the other begins. -/
theorem pairwise (laid : Laid blanks WrittenAs pos elements text) :
    elements.Pairwise fun a b => (place a).stop ≤ (place b).start := by
  induction laid with
  | nil => exact .nil
  | cons blank written later ih =>
    refine List.pairwise_cons.mpr ⟨fun b behind => ?_, ih⟩
    rw [placed _ _ _ written]
    exact (later.bounds placed behind).1

end

/-- A gap in front of a text is a part of its first gap. -/
theorem skip {gap : List Char} (blank : gap ⊆ blanks)
    (laid : Laid blanks WrittenAs (pos + Text.byteLength gap) elements text) :
    Laid blanks WrittenAs pos elements (gap ++ text) := by
  cases laid with
  | nil blank' => exact .nil (List.append_subset.mpr ⟨blank, blank'⟩)
  | @cons _ gap' piece text a rest blank' written later =>
    have start : pos + Text.byteLength gap + Text.byteLength gap' = pos + Text.byteLength (gap ++ gap') := by
      rw [Text.byteLength_append, Nat.add_assoc]
    rw [start] at written later
    rw [← List.append_assoc, ← List.append_assoc]
    exact .cons (List.append_subset.mpr ⟨blank, blank'⟩) written later

/-- Elements of a text and elements of what follows it are elements of the whole. -/
theorem append {others : List α} {text' : List Char}
    (laid : Laid blanks WrittenAs pos elements text)
    (laid' : Laid blanks WrittenAs (pos + Text.byteLength text) others text') :
    Laid blanks WrittenAs pos (elements ++ others) (text ++ text') := by
  induction laid with
  | nil blank => exact skip blank laid'
  | @cons pos gap piece text a rest blank written later ih =>
    rw [List.append_assoc (gap ++ piece)]
    refine .cons blank written (ih ?_)
    rwa [Text.byteLength_append, Text.byteLength_append, ← Nat.add_assoc, ← Nat.add_assoc] at laid'

end Laid
end Narrative
