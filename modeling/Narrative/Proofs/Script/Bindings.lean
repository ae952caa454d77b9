import Mathlib.Logic.Function.Basic
import Narrative.Proofs.Script.Composition
import Narrative.Script.Check

/-!
Where labels are bound. A name is bound to the first line that defines it (`LabelTable.line?_eq_find?`), so in a parsed
script a label leads to a line that exists and defines it (`Script.placed_of_parse`). The used labels are those that
directives spell out and, of the bound ones, those that source switches can choose (`Directive.mem_uses_iff`). A table
that finds names through an index of places keeps the same labels, and each place in its index is one of its entries
(`IndexedLabels.keeps_ofLines`), so names lead to the same lines (`IndexedLabels.Keeps.line?_eq`).
-/
namespace Narrative

/-- Every line knows its place, and every bound label leads to a line that defines it. -/
structure Script.Placed (script : Script) : Prop where
  index : ∀ {place line}, script.line? place = some line → line.index = place
  bound : ∀ {label place}, script.labels.line? label = some place →
    ∃ line, script.line? place = some line ∧ line.definition? = some label

namespace LabelTable

/-- A name is bound to the first line that defines it. -/
theorem line?_eq_find? (lines : List Line) (name : String) :
    (ofLines lines).line? name = (lines.find? (·.definition? == some name)).map (·.index) := by
  have same : (fun line : Line => (line.definition?.map fun label => (⟨label, line.index⟩ : Label)).any
      (·.name == name)) = fun line => line.definition? == some name := by
    funext line
    cases line.definition? <;> simp
  rw [line?_ofLines, definitions, List.find?_filterMap, same]
  cases found : lines.find? (·.definition? == some name) with
  | none => rfl
  | some line =>
    have defines : line.definition? = some name := by simpa using List.find?_some found
    rw [Option.bind_some, defines]
    rfl

theorem exists_line?_of_definition {lines : List Line} {line : Line} (member : line ∈ lines) {name : String}
    (defines : line.definition? = some name) : ∃ place, (ofLines lines).line? name = some place := by
  have found : (lines.find? (·.definition? == some name)).isSome = true :=
    List.find?_isSome.mpr ⟨line, member, by simp [defines]⟩
  obtain ⟨first, here⟩ := Option.isSome_iff_exists.mp found
  exact ⟨first.index, by rw [line?_eq_find?, here, Option.map_some]⟩

end LabelTable

theorem Script.placed_of_parse (name source : String) : (parse name source).Placed := by
  refine ⟨index_of_parse, ?_⟩
  intro label place bound
  rw [labels, LabelTable.line?_eq_find?] at bound
  obtain ⟨line, found, rfl⟩ := Option.map_eq_some_iff.mp bound
  obtain ⟨place, here⟩ := List.mem_iff_getElem?.mp (List.mem_of_find?_eq_some found)
  have there : (parse name source).line? place = some line := here
  rw [index_of_parse there]
  exact ⟨line, there, by simpa using List.find?_some found⟩

namespace Script.Placed
variable {script : Script}

theorem lt_of_bound (placed : script.Placed) {label : String} {place : Nat}
    (bound : script.labels.line? label = some place) : place < script.size := by
  obtain ⟨line, here, _⟩ := placed.bound bound
  exact (List.getElem?_eq_some_iff.mp here).1

theorem line?_of_mem (placed : script.Placed) {line : Line} (member : line ∈ script.lines) :
    script.line? line.index = some line := by
  obtain ⟨place, here⟩ := List.mem_iff_getElem?.mp member
  have there : script.line? place = some line := here
  rw [placed.index there]
  exact there

end Script.Placed

/-- A directive uses the labels that it spells out, and a source switch the bound ones that begin with its base. -/
theorem Directive.mem_uses_iff {labels : LabelTable} {directive : Directive} {label : String} :
    label ∈ directive.uses labels ↔ label ∈ directive.references ∨
      ∃ base, directive = .sourceSwitch base ∧ labels.contains label = true ∧ begins base label = true := by
  cases directive with
  | sourceSwitch base =>
    simp only [uses, references, List.not_mem_nil, false_or, sourceSwitch.injEq, exists_eq_left']
    exact LabelTable.mem_names_withPrefix_iff
  | _ => simp [uses]

theorem Script.mem_used_iff {script : Script} {label : String} :
    label ∈ script.used ↔
      ∃ line ∈ script.lines, ∃ directive, line.directive? = some directive ∧ label ∈ directive.uses script.labels := by
  simp only [used, List.mem_flatMap]
  refine exists_congr fun line => and_congr_right fun _ => ?_
  cases line.directive? <;> simp

/-- A table of labels with an index that tells the place of each name among the entries. -/
structure IndexedLabels where
  entries : List Label := []
  index : String → Option Nat := fun _ => none
  duplicates : List Label := []

namespace IndexedLabels

/-- Whether a name is in the index. -/
def contains (labels : IndexedLabels) (name : String) : Bool := (labels.index name).isSome

/-- The line of the entry to which the index leads a name. -/
def line? (labels : IndexedLabels) (name : String) : Option Nat :=
  (labels.index name).bind fun place => labels.entries[place]?.map (·.line)

def insert (labels : IndexedLabels) (label : Label) : IndexedLabels :=
  if (labels.index label.name).isSome then { labels with duplicates := labels.duplicates ++ [label] }
  else { labels with
    index := Function.update labels.index label.name (some labels.entries.length)
    entries := labels.entries ++ [label] }

def ofLines (lines : List Line) : IndexedLabels := (LabelTable.definitions lines).foldl insert {}

/-- An index and a table with the same labels, each name indexed with its place among them. -/
structure Keeps (labels : IndexedLabels) (table : LabelTable) : Prop where
  entries : labels.entries = table.bound
  index : ∀ name, labels.index name = table.bound.findIdx? (·.name == name)
  duplicates : labels.duplicates = table.duplicates

namespace Keeps
variable {labels : IndexedLabels} {table : LabelTable}

theorem contains_eq (keeps : labels.Keeps table) (name : String) : labels.contains name = table.contains name := by
  rw [IndexedLabels.contains, keeps.index, List.findIdx?_isSome]
  rfl

theorem insert (keeps : labels.Keeps table) (label : Label) : (labels.insert label).Keeps (table.define label) := by
  have known : (labels.index label.name).isSome = table.contains label.name := keeps.contains_eq label.name
  unfold IndexedLabels.insert LabelTable.define
  rw [known]
  by_cases defined : table.contains label.name = true
  · rw [if_pos defined, if_pos defined]
    exact ⟨keeps.entries, keeps.index, by rw [keeps.duplicates]⟩
  · rw [if_neg defined, if_neg defined]
    refine ⟨by rw [keeps.entries], ?_, keeps.duplicates⟩
    intro name
    rw [List.findIdx?_append, ← keeps.index name]
    by_cases same : name = label.name
    · have fresh : labels.index name = none := by
        rw [← Option.not_isSome_iff_eq_none, same, known]
        exact defined
      rw [fresh, same]
      simp [keeps.entries]
    · simp [Function.update_of_ne same, Ne.symm same]

/-- A place in the index is that of an entry with the name, and leads to its line. -/
theorem exists_entry (keeps : labels.Keeps table) {name : String} {place : Nat}
    (known : labels.index name = some place) :
    ∃ entry, labels.entries[place]? = some entry ∧ entry.name = name ∧ table.line? name = some entry.line := by
  rw [keeps.index] at known
  obtain ⟨inside, named, _⟩ := List.findIdx?_eq_some_iff_getElem.mp known
  refine ⟨table.bound[place], ?_, beq_iff_eq.mp named, ?_⟩
  · rw [keeps.entries]
    exact List.getElem?_eq_getElem inside
  · rw [LabelTable.line?, List.find?_eq_bind_findIdx?_getElem?, known, Option.bind_some,
      List.getElem?_eq_getElem inside]
    rfl

theorem line?_of_none (keeps : labels.Keeps table) {name : String} (unknown : labels.index name = none) :
    table.line? name = none := by
  rw [keeps.index] at unknown
  rw [LabelTable.line?, List.find?_eq_bind_findIdx?_getElem?, unknown]
  rfl

theorem line?_eq (keeps : labels.Keeps table) (name : String) : labels.line? name = table.line? name := by
  rw [IndexedLabels.line?]
  cases known : labels.index name with
  | none => rw [keeps.line?_of_none known, Option.bind_none]
  | some place =>
    obtain ⟨entry, here, _, bound⟩ := keeps.exists_entry known
    rw [Option.bind_some, here, bound, Option.map_some]

/-- Where no name is bound twice, the index leads a name to its entry and to no other place. -/
theorem index_eq_some_iff (keeps : labels.Keeps table) (distinct : (table.bound.map (·.name)).Nodup) {name : String}
    {place : Nat} :
    labels.index name = some place ↔ ∃ entry, labels.entries[place]? = some entry ∧ entry.name = name := by
  constructor
  · intro known
    obtain ⟨entry, here, named, _⟩ := keeps.exists_entry known
    exact ⟨entry, here, named⟩
  · rintro ⟨entry, here, rfl⟩
    rw [keeps.entries] at here
    obtain ⟨inside, rfl⟩ := List.getElem?_eq_some_iff.mp here
    rw [keeps.index, List.findIdx?_eq_some_iff_getElem]
    refine ⟨inside, beq_self_eq_true _, fun earlier before => ?_⟩
    have apart := List.pairwise_iff_getElem.mp (List.pairwise_map.mp distinct)
    simpa using apart earlier place (before.trans inside) inside before

end Keeps

theorem keeps_ofLines (lines : List Line) : (ofLines lines).Keeps (LabelTable.ofLines lines) := by
  have kept : ∀ (labels : IndexedLabels) (table : LabelTable), labels.Keeps table →
      ((LabelTable.definitions lines).foldl insert labels).Keeps
        ((LabelTable.definitions lines).foldl LabelTable.define table) := by
    induction LabelTable.definitions lines with
    | nil => exact fun _ _ keeps => keeps
    | cons label rest ih => exact fun labels table keeps => ih _ _ (keeps.insert label)
  exact kept {} {} ⟨rfl, fun _ => rfl, rfl⟩

end IndexedLabels
end Narrative
