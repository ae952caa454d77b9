import Narrative.Cast.Persona
import Narrative.Script.Line

/-!
The labels of a script. A name belongs to the first line that defines it; later definitions are
kept as duplicates. The table is a list of bindings in the order of the lines.
-/
namespace Narrative

/-- A label name and the line that defines it, counted from 0. -/
structure Label where
  name : String
  line : Nat
  deriving DecidableEq

/-- The labels of a script, in the order of their lines. -/
structure LabelTable where
  /-- The first definition of each name. -/
  bound : List Label := []
  /-- The definitions of names that an earlier line defines. -/
  duplicates : List Label := []
  deriving DecidableEq

namespace LabelTable

/-- Whether a name is bound. -/
def contains (table : LabelTable) (name : String) : Bool := table.bound.any (·.name == name)

/-- The line to which a name is bound. -/
def line? (table : LabelTable) (name : String) : Option Nat :=
  (table.bound.find? (·.name == name)).map (·.line)

/-- The table with one definition more, which comes after the others. -/
def define (table : LabelTable) (label : Label) : LabelTable :=
  if table.contains label.name then { table with duplicates := table.duplicates ++ [label] }
  else { table with bound := table.bound ++ [label] }

/-- The definitions of lines, in order. -/
def definitions (lines : List Line) : List Label :=
  lines.filterMap fun line => line.definition?.map fun name => ⟨name, line.index⟩

/-- The table of lines. -/
def ofLines (lines : List Line) : LabelTable := (definitions lines).foldl define {}

/-- The bound labels whose names begin with a text. -/
def withPrefix (table : LabelTable) (start : String) : List Label :=
  table.bound.filter fun label => Directive.begins start label.name

/-- The ending that stands for every source without a label of its own. -/
def defaultSuffix : String := "default"

/-- The label for a base and a source: the base with the source if that is bound, and with the
default ending otherwise. -/
def suffixed? (table : LabelTable) (base : String) (source : Option String) : Option Label :=
  ((source.toList.map (base ++ ·)) ++ [base ++ defaultSuffix]).findSome? fun name =>
    (table.line? name).map fun line => ⟨name, line⟩

/-- The number of bound names. -/
def size (table : LabelTable) : Nat := table.bound.length

theorem isSome_line? (table : LabelTable) (name : String) : (table.line? name).isSome = table.contains name := by
  rw [Bool.eq_iff_iff, line?, Option.isSome_map, List.find?_isSome, contains, List.any_eq_true]

theorem contains_iff {table : LabelTable} {name : String} :
    table.contains name = true ↔ ∃ place, table.line? name = some place := by
  rw [← isSome_line?, Option.isSome_iff_exists]

section
variable {table : LabelTable} {start : String}

/-- The names that begin with a text are the bound ones that do. -/
theorem mem_names_withPrefix_iff {name : String} : name ∈ (table.withPrefix start).map (·.name) ↔
    table.contains name = true ∧ Directive.begins start name = true := by
  simp only [withPrefix, contains, List.mem_map, List.mem_filter, List.any_eq_true, beq_iff_eq]
  constructor
  · rintro ⟨label, ⟨bound, begins⟩, rfl⟩
    exact ⟨⟨label, bound, rfl⟩, begins⟩
  · rintro ⟨⟨label, bound, rfl⟩, begins⟩
    exact ⟨label, ⟨bound, begins⟩, rfl⟩

theorem withPrefix_ne_nil_iff_exists :
    table.withPrefix start ≠ [] ↔ ∃ name, table.contains name = true ∧ Directive.begins start name = true := by
  constructor
  · intro some_label
    obtain ⟨label, listed⟩ := List.exists_mem_of_ne_nil _ some_label
    exact ⟨label.name, mem_names_withPrefix_iff.mp (List.mem_map_of_mem listed)⟩
  · rintro ⟨name, known⟩
    obtain ⟨label, listed, _⟩ := List.mem_map.mp (mem_names_withPrefix_iff.mpr known)
    exact List.ne_nil_of_mem listed

end

section
variable {table : LabelTable} {base : String} {source : Option String} {label : Label}

/-- A name with the line to which it is bound. -/
theorem map_line?_eq_some_iff {name : String} : (table.line? name).map (Label.mk name) = some label ↔
    label.name = name ∧ table.line? label.name = some label.line := by
  rw [Option.map_eq_some_iff]
  constructor
  · rintro ⟨place, bound, rfl⟩
    exact ⟨rfl, bound⟩
  · rintro ⟨rfl, bound⟩
    exact ⟨label.line, bound, rfl⟩

theorem suffixed?_eq_or : table.suffixed? base source =
    (source.bind fun own => (table.line? (base ++ own)).map (Label.mk (base ++ own))).or
      ((table.line? (base ++ defaultSuffix)).map (Label.mk (base ++ defaultSuffix))) := by
  rw [suffixed?, List.findSome?_append, List.findSome?_singleton]
  cases source with
  | none => rfl
  | some own => rw [Option.toList_some, List.map_singleton, List.findSome?_singleton, Option.bind_some]

/-- The label for a base and a source is the base with the source, if that is bound, and otherwise the base with the
default ending. -/
theorem suffixed?_eq_some_iff : table.suffixed? base source = some label ↔
    table.line? label.name = some label.line ∧
      ((∃ own, source = some own ∧ label.name = base ++ own) ∨
        label.name = base ++ defaultSuffix ∧ ∀ own, source = some own → table.line? (base ++ own) = none) := by
  rw [suffixed?_eq_or, Option.or_eq_some_iff, Option.bind_eq_some_iff, Option.bind_eq_none_iff]
  simp only [map_line?_eq_some_iff, Option.map_eq_none_iff]
  constructor
  · rintro (⟨own, known, named, bound⟩ | ⟨unbound, named, bound⟩)
    · exact ⟨bound, .inl ⟨own, known, named⟩⟩
    · exact ⟨bound, .inr ⟨named, unbound⟩⟩
  · rintro ⟨bound, ⟨own, known, named⟩ | ⟨named, unbound⟩⟩
    · exact .inl ⟨own, known, named, bound⟩
    · exact .inr ⟨unbound, named, bound⟩

end

end LabelTable

/-- The persona that a label is for: the one whose name stands before the first underscore. -/
def labelPersona? (label : String) : Option Persona :=
  Persona.ofName? (String.ofList (Text.cut (· == '_') label.toList).1)

end Narrative
