import Mathlib.Data.List.Forall2
import Narrative.Proofs.Script.Arguments
import Narrative.Script.Basic

/-!
The lines of a parsed script. Each is made of a piece of the text alone (`exists_ofText_of_parse`), and
each knows its place (`index_of_parse`), so that no two lines have the same place. Two scripts whose lines are
related one by one have lines at the same places (`exists_pair`).
-/
namespace Narrative
namespace Script

theorem flatten_chunks (text : List Char) : (chunks text).flatten = text := by
  induction text with
  | nil => rfl
  | cons c rest ih =>
    rw [chunks]
    split
    · rename_i feed
      rw [List.flatten_cons, ih, beq_iff_eq.mp feed]
      rfl
    · split
      · rename_i none
        rw [none] at ih
        rw [← ih]
        rfl
      · rename_i chunk more shape
        rw [shape] at ih
        rw [← ih]
        rfl

private theorem exists_ofText_of_linesFrom {index offset : Nat} {chunks : List (List Char)} {line : Line}
    (member : line ∈ linesFrom index offset chunks) : ∃ place start text, line = Line.ofText place start text := by
  induction chunks generalizing index offset with
  | nil => simp [linesFrom] at member
  | cons chunk rest ih =>
    rcases List.mem_cons.mp member with rfl | later
    · exact ⟨_, _, _, rfl⟩
    · exact ih later

/-- A line of a parsed script is read from its own text. -/
theorem exists_ofText_of_parse {name source : String} {line : Line} (member : line ∈ (parse name source).lines) :
    ∃ place start text, line = Line.ofText place start text :=
  exists_ofText_of_linesFrom member

private theorem index_of_linesFrom {index offset : Nat} {chunks : List (List Char)} {place : Nat} {line : Line}
    (here : (linesFrom index offset chunks)[place]? = some line) : line.index = index + place := by
  induction chunks generalizing index offset place with
  | nil => simp [linesFrom] at here
  | cons chunk rest ih =>
    cases place with
    | zero =>
      simp only [linesFrom, List.getElem?_cons_zero, Option.some.injEq] at here
      subst here
      rfl
    | succ place =>
      simp only [linesFrom, List.getElem?_cons_succ] at here
      rw [ih here]
      omega

/-- A line of a parsed script knows its place. -/
theorem index_of_parse {name source : String} {place : Nat} {line : Line}
    (here : (parse name source).line? place = some line) : line.index = place := by
  have placed := index_of_linesFrom here
  omega

/-- The lines of a parsed script stand in the order of their places. -/
theorem pairwise_index (name source : String) :
    (parse name source).lines.Pairwise fun line other => line.index < other.index := by
  rw [List.pairwise_iff_getElem]
  intro i j first second before
  rw [index_of_parse (List.getElem?_eq_getElem first), index_of_parse (List.getElem?_eq_getElem second)]
  exact before

/-- Lines of a parsed script with the same place are the same line. -/
theorem eq_of_index {name source : String} {a b : Line} (first : a ∈ (parse name source).lines)
    (second : b ∈ (parse name source).lines) (same : a.index = b.index) : a = b := by
  obtain ⟨i, atI⟩ := List.mem_iff_getElem?.mp first
  obtain ⟨j, atJ⟩ := List.mem_iff_getElem?.mp second
  have placeI : a.index = i := index_of_parse atI
  have placeJ : b.index = j := index_of_parse atJ
  have places : i = j := by omega
  subst places
  exact Option.some.inj (atI.symm.trans atJ)

section
variable {R : Line → Line → Prop} {script other : Script} {place : Nat}

theorem line?_eq_none_iff (pairs : List.Forall₂ R script.lines other.lines) :
    other.line? place = none ↔ script.line? place = none := by
  rw [line?, line?, List.getElem?_eq_none_iff, List.getElem?_eq_none_iff, List.Forall₂.length_eq pairs]

theorem exists_pair (pairs : List.Forall₂ R script.lines other.lines) {line : Line}
    (here : script.line? place = some line) : ∃ line', other.line? place = some line' ∧ R line line' := by
  obtain ⟨short, rfl⟩ := List.getElem?_eq_some_iff.mp here
  have short' : place < other.lines.length := List.Forall₂.length_eq pairs ▸ short
  exact ⟨other.lines[place], List.getElem?_eq_getElem short', (List.forall₂_iff_get.mp pairs).2 place short short'⟩

/-- Scripts with the same definitions have the same labels. -/
theorem labels_congr (pairs : List.Forall₂ (fun line line' => line'.definition?.map (Label.mk · line'.index) =
    line.definition?.map (Label.mk · line.index)) script.lines other.lines) : other.labels = script.labels := by
  have same : LabelTable.definitions other.lines = LabelTable.definitions script.lines := by
    generalize script.lines = lines, other.lines = others at pairs
    induction pairs with
    | nil => rfl
    | @cons line other lines others pair rest ih =>
      simp only [LabelTable.definitions] at ih ⊢
      rw [List.filterMap_cons, List.filterMap_cons, pair, ih]
  rw [labels, labels, LabelTable.ofLines, LabelTable.ofLines, same]

end

end Script

/-- What stands for a base and a source is bound. -/
theorem LabelTable.line?_of_suffixed {table : LabelTable} {base : String} {source : Option String} {label : Label}
    (chosen : table.suffixed? base source = some label) : table.line? label.name = some label.line :=
  (suffixed?_eq_some_iff.mp chosen).1

/-- A line with a directive writes a keyword and sound arguments. -/
theorem Line.directive?_eq_some_iff {line : Line} {directive : Directive} :
    line.directive? = some directive ↔
      ∃ keyword args, line.content = .directive keyword args ∧ Directive.read keyword args = .ok directive := by
  cases content : line.content with
  | blank | dialogue speaker text unknown => simp [Line.directive?, Content.directive?, content]
  | directive keyword args =>
    have same : line.directive? = (Directive.read keyword args).toOption := by
      rw [Line.directive?, content, Content.directive?]
    rw [same]
    constructor
    · intro written
      cases read : Directive.read keyword args with
      | error fault =>
        rw [read] at written
        cases written
      | ok found =>
        rw [read] at written
        cases written
        exact ⟨keyword, args, rfl, read⟩
    · rintro ⟨_, _, ⟨⟩, read⟩
      rw [read]
      rfl

/-- A modifier that a line evaluates is written by one of its entries. -/
theorem Line.exists_entry_of_modifiers {line : Line} {modifier : Modifier} (evaluated : modifier ∈ line.modifiers) :
    ∃ entry ∈ line.block.toList, Modifier.ofEntry entry = .ok modifier := by
  unfold Line.modifiers at evaluated
  split at evaluated
  · cases evaluated
  · obtain ⟨entry, inside, written⟩ := List.mem_filterMap.mp evaluated
    cases read : Modifier.ofEntry entry with
    | error fault => simp [read, Except.toOption] at written
    | ok other =>
      simp only [read, Except.toOption, Option.some.injEq] at written
      exact ⟨entry, inside, by rw [read, written]⟩

theorem Line.keyword?_of_directive {line : Line} {directive : Directive} (written : line.directive? = some directive) :
    line.keyword? = some directive.keyword := by
  obtain ⟨keyword, args, content, read⟩ := Line.directive?_eq_some_iff.mp written
  rw [Line.keyword?, content, Directive.keyword_of_read read]

theorem Line.directive?_of_definition {line : Line} {label : String} (defines : line.definition? = some label) :
    line.directive? = some (.label label) := by
  obtain ⟨directive, written, own⟩ := Option.bind_eq_some_iff.mp defines
  cases directive <;> cases own
  exact written

/-- A line defines a label where it writes the keyword of labels and the name, and no other argument. -/
theorem Line.definition?_eq_some_iff {line : Line} {name : String} :
    line.definition? = some name ↔ line.content = .directive .label [name] := by
  constructor
  · intro defines
    obtain ⟨keyword, args, content, read⟩ := directive?_eq_some_iff.mp (directive?_of_definition defines)
    obtain rfl : Keyword.label = keyword := Directive.keyword_of_read read
    cases args with
    | nil => cases read
    | cons arg rest =>
      cases rest with
      | nil =>
        cases read
        exact content
      | cons => cases read
  · intro content
    have written : line.directive? = some (.label name) := directive?_eq_some_iff.mpr ⟨_, _, content, rfl⟩
    rw [definition?, written]
    rfl

theorem Line.keyword?_of_definition {line : Line} {label : String} (defines : line.definition? = some label) :
    line.keyword? = some .label :=
  Line.keyword?_of_directive (Line.directive?_of_definition defines)

/-- A block with entries has at least one. -/
theorem Block.entries_ne_nil {offset : Nat} {parts : List (List Char × Nat)} {list : List Entry}
    (made : Block.ofParts offset parts = .entries list) : list ≠ [] := by
  unfold Block.ofParts at made
  split at made
  · cases made
  · split at made
    · cases made
    · rename_i some_entry
      cases made
      exact some_entry
  · cases made

end Narrative
