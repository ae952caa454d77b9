import Narrative.Proofs.Script.Acceptance
import Narrative.Proofs.Script.Passes

/-!
The table of labels. A script defines a label where a line writes the keyword and one name. The table lists each
definition once and in the order of the lines: as bound if no earlier line defines the name, and as a duplicate if one
does (`Script.perm_definitions`, `Script.mem_bound_iff`). So a name leads to its first definition
(`Script.line?_labels_iff`), and everything that is looked up in the table is told by the lines alone
(`Script.records_labels`). An accepted script has no duplicates (`Script.leads_of_accepted`).
-/
namespace Narrative

namespace Script

/-- A label of a script: the line at its place writes the keyword of labels, the name and no other argument. -/
def Defines (script : Script) (label : Label) : Prop :=
  ∃ line, script.line? label.line = some line ∧ line.content = .directive .label [label.name]

/-- A label of a script whose name no earlier line defines. -/
def DefinesFirst (script : Script) (label : Label) : Prop :=
  script.Defines label ∧ ∀ earlier < label.line, ¬ script.Defines ⟨label.name, earlier⟩

section
variable {name source : String} {label : Label}

theorem mem_definitions_iff :
    label ∈ LabelTable.definitions (parse name source).lines ↔ (parse name source).Defines label := by
  simp only [LabelTable.definitions, List.mem_filterMap, Option.map_eq_some_iff]
  constructor
  · rintro ⟨line, member, written, defines, rfl⟩
    exact ⟨line, (placed_of_parse name source).line?_of_mem member, Line.definition?_eq_some_iff.mp defines⟩
  · rintro ⟨line, here, content⟩
    refine ⟨line, List.mem_of_getElem? here, label.name, Line.definition?_eq_some_iff.mpr content, ?_⟩
    rw [index_of_parse here]

/-- A name leads to the first line that defines it. -/
theorem line?_labels_iff :
    (parse name source).labels.line? label.name = some label.line ↔ (parse name source).DefinesFirst label := by
  rw [labels, LabelTable.line?_eq_find?, Option.map_eq_some_iff]
  -- Lines know their places, so the line that is found first is the one at the lowest place.
  constructor
  · rintro ⟨line, found, place⟩
    obtain ⟨defines, index, inside, rfl, before⟩ := List.find?_eq_some_iff_getElem.mp found
    have here : (parse name source).line? index = some (parse name source).lines[index] :=
      List.getElem?_eq_getElem inside
    rw [index_of_parse here] at place
    subst place
    refine ⟨⟨_, here, Line.definition?_eq_some_iff.mp (beq_iff_eq.mp defines)⟩, ?_⟩
    rintro earlier early ⟨line, there, content⟩
    obtain ⟨_, rfl⟩ := List.getElem?_eq_some_iff.mp there
    have other := before earlier early
    rw [Line.definition?_eq_some_iff.mpr content] at other
    simp at other
  · rintro ⟨⟨line, here, content⟩, fresh⟩
    obtain ⟨inside, same⟩ := List.getElem?_eq_some_iff.mp here
    refine ⟨line, List.find?_eq_some_iff_getElem.mpr ⟨?_, label.line, inside, same, ?_⟩, index_of_parse here⟩
    · rw [Line.definition?_eq_some_iff.mpr content]
      exact beq_self_eq_true _
    · intro earlier early
      have there := List.getElem?_eq_getElem (early.trans inside)
      simpa using fun defines => fresh earlier early ⟨_, there, Line.definition?_eq_some_iff.mp defines⟩

theorem line?_labels_eq_none_iff {word : String} :
    (parse name source).labels.line? word = none ↔ ∀ place, ¬ (parse name source).Defines ⟨word, place⟩ := by
  constructor
  · intro unknown place defines
    obtain ⟨line, here, content⟩ := defines
    obtain ⟨first, bound⟩ := LabelTable.exists_line?_of_definition (List.mem_of_getElem? here)
      (Line.definition?_eq_some_iff.mpr content)
    cases unknown.symm.trans bound
  · intro undefined
    refine Option.eq_none_iff_forall_ne_some.mpr fun place bound => ?_
    have first : (parse name source).DefinesFirst ⟨word, place⟩ := line?_labels_iff.mp bound
    exact undefined place first.1

theorem mem_bound_iff : label ∈ (parse name source).labels.bound ↔ (parse name source).DefinesFirst label := by
  rw [(labels_eq_filter name source).1, List.mem_filter, mem_definitions_iff, LabelTable.leadsTo, beq_iff_eq,
    line?_labels_iff]
  exact and_iff_right_of_imp And.left

theorem duplicates_eq_nil_iff : (parse name source).labels.duplicates = [] ↔
    ∀ label, (parse name source).Defines label → (parse name source).labels.line? label.name = some label.line := by
  rw [(labels_eq_filter name source).2, List.filter_eq_nil_iff]
  simp only [mem_definitions_iff, LabelTable.leadsTo, Bool.not_eq_true', beq_eq_false_iff_ne, ne_eq, not_not]

end

section
variable (name source : String)

/-- The bound labels and the duplicates together are the definitions of the lines. -/
theorem perm_definitions : ((parse name source).labels.bound ++ (parse name source).labels.duplicates).Perm
    (LabelTable.definitions (parse name source).lines) := by
  obtain ⟨bound, duplicates⟩ := labels_eq_filter name source
  rw [bound, duplicates]
  exact List.filter_append_perm ..

theorem pairwise_bound : (parse name source).labels.bound.Pairwise fun label later => label.line < later.line := by
  rw [(labels_eq_filter name source).1]
  exact (pairwise_definitions name source).filter _

theorem pairwise_duplicates :
    (parse name source).labels.duplicates.Pairwise fun label later => label.line < later.line := by
  rw [(labels_eq_filter name source).2]
  exact (pairwise_definitions name source).filter _

theorem nodup_places :
    (((parse name source).labels.bound ++ (parse name source).labels.duplicates).map (·.line)).Nodup := by
  rw [((perm_definitions name source).map _).nodup_iff]
  exact List.pairwise_map.mpr ((pairwise_definitions name source).imp Nat.ne_of_lt)

theorem nodup_names : ((parse name source).labels.bound.map (·.name)).Nodup := by
  refine List.pairwise_map.mpr ((pairwise_bound name source).imp_of_mem fun first second before same => ?_)
  -- The name of the second label would be defined by an earlier line.
  refine (mem_bound_iff.mp second).2 _ before ?_
  rw [← same]
  exact (mem_bound_iff.mp first).1

end
end Script

/-- What a table tells of the labels of a script. -/
structure LabelTable.Records (table : LabelTable) (script : Script) : Prop where
  /-- No name is bound twice. -/
  distinct : (table.bound.map (·.name)).Nodup
  /-- No line is listed twice. -/
  once : ((table.bound ++ table.duplicates).map (·.line)).Nodup
  /-- Every line that defines a label is listed, and no other. -/
  listed : ∀ label, label ∈ table.bound ++ table.duplicates ↔ script.Defines label
  /-- Of the definitions of a name the first is bound. -/
  bound : ∀ label, label ∈ table.bound ↔ script.DefinesFirst label
  boundAscend : table.bound.Pairwise fun label later => label.line < later.line
  duplicatesAscend : table.duplicates.Pairwise fun label later => label.line < later.line
  /-- A name leads to the first line that defines it, and is known if there is one. -/
  leads : ∀ name place, table.line? name = some place ↔ script.DefinesFirst ⟨name, place⟩
  leadsNowhere : ∀ name, table.line? name = none ↔ ∀ place, ¬ script.Defines ⟨name, place⟩
  known : ∀ name, table.contains name = true ↔ ∃ place, table.line? name = some place
  /-- The bound labels that begin with a text, in the order of the lines. -/
  prefixed : ∀ start, (table.withPrefix start).Pairwise (fun label later => label.line < later.line) ∧
    ∀ label, label ∈ table.withPrefix start ↔ label ∈ table.bound ∧ start.toList <+: label.name.toList
  /-- The first bound one of the names that a base and a source make. -/
  suffixed : ∀ base source label, table.suffixed? base source = some label ↔
    table.line? label.name = some label.line ∧
      ((∃ own, source = some own ∧ label.name = base ++ own) ∨
        label.name = base ++ "default" ∧ ∀ own, source = some own → table.line? (base ++ own) = none)

theorem Script.records_labels (name source : String) : (parse name source).labels.Records (parse name source) where
  distinct := nodup_names name source
  once := nodup_places name source
  listed := fun _ => (perm_definitions name source).mem_iff.trans mem_definitions_iff
  bound := fun _ => mem_bound_iff
  boundAscend := pairwise_bound name source
  duplicatesAscend := pairwise_duplicates name source
  leads := fun word place => @line?_labels_iff _ _ ⟨word, place⟩
  leadsNowhere := fun _ => line?_labels_eq_none_iff
  known := fun _ => LabelTable.contains_iff
  prefixed := by
    intro start
    refine ⟨(pairwise_bound name source).filter _, fun label => ?_⟩
    rw [LabelTable.withPrefix, List.mem_filter, Directive.begins_iff]
  suffixed := fun _ _ _ => LabelTable.suffixed?_eq_some_iff

example : (Script.parse "s" "label a\nlabel b\nlabel\nLABEL a").labels = ⟨[⟨"a", 0⟩, ⟨"b", 1⟩], [⟨"a", 3⟩]⟩ := by
  decide +kernel

/-- In an accepted script every definition is bound. -/
theorem Script.leads_of_accepted {name source : String} {policy : Policy} (keeps : policy.KeepsErrors)
    (accepted : (parse name source).accepted policy = true) {label : Label}
    (defines : (parse name source).Defines label) :
    (parse name source).labels.line? label.name = some label.line := by
  obtain ⟨line, here, content⟩ := defines
  by_contra elsewhere
  have written : line.definition? = some label.name := Line.definition?_eq_some_iff.mpr content
  have faulty : ⟨.labelDuplicate, [label.name]⟩ ∈ (parse name source).issues line := by
    simp [issues, Line.issues, Line.labelIssues, written, index_of_parse here, elsewhere]
  have noted := defaultSeverity_of_accepted keeps accepted (List.mem_of_getElem? here) faulty
  cases noted

/-- The labels of every script are those of its lines, each listed once and its name bound to its first definition, with
    an index that leads names to their entries. Where the check finds no errors, there are no duplicates, and every
    label is bound to its own line. -/
theorem Script.labels_recorded (name source : String) :
    let script := parse name source
    let indexed := IndexedLabels.ofLines script.lines
    script.labels.Records script ∧
    (indexed.entries = script.labels.bound ∧ indexed.duplicates = script.labels.duplicates ∧
      ∀ label, indexed.contains label = script.labels.contains label ∧
        indexed.line? label = script.labels.line? label ∧
        ∀ place, indexed.index label = some place ↔
          ∃ entry, indexed.entries[place]? = some entry ∧ entry.name = label) ∧
    ∀ policy : Policy, policy.KeepsErrors → script.accepted policy = true →
      script.labels.duplicates = [] ∧
      ∀ line ∈ script.lines, ∀ label, line.content = .directive .label [label] →
        script.labels.line? label = some line.index := by
  intro script indexed
  have records : script.labels.Records script := records_labels name source
  have keeps : indexed.Keeps script.labels := IndexedLabels.keeps_ofLines script.lines
  refine ⟨records, ⟨keeps.entries, keeps.duplicates, fun label => ?_⟩, fun policy strict accepted => ⟨?_, ?_⟩⟩
  · exact ⟨keeps.contains_eq label, keeps.line?_eq label, fun _ => keeps.index_eq_some_iff records.distinct⟩
  · exact duplicates_eq_nil_iff.mpr fun label defines => leads_of_accepted strict accepted defines
  · intro line member label content
    have here : script.line? line.index = some line := (placed_of_parse name source).line?_of_mem member
    have defines : script.Defines ⟨label, line.index⟩ := ⟨line, here, content⟩
    exact leads_of_accepted strict accepted defines

/-- Two labels of which one begins like the other, the first with a capital letter in its keyword. -/
theorem Script.labels_recorded_of_refrain :
    let script := parse "refrain" "Label start\nHero: Again?\nlabel start_2\njumpto start"
    Policy.KeepsErrors {} ∧ script.accepted {} = true ∧ script.labels.duplicates = [] ∧
      ∃ line ∈ script.lines, line.content = .directive .label ["start_2"] ∧
        script.labels.line? "start_2" = some line.index := by
  intro script
  have keeps : Policy.KeepsErrors {} := fun _ error => error
  have facts : script.accepted {} = true ∧
      ∃ line ∈ script.lines, line.content = .directive .label ["start_2"] := by
    decide +kernel
  obtain ⟨accepted, line, member, content⟩ := facts
  obtain ⟨_, _, bound⟩ := labels_recorded "refrain" "Label start\nHero: Again?\nlabel start_2\njumpto start"
  obtain ⟨none_twice, leads⟩ := bound {} keeps accepted
  exact ⟨keeps, accepted, none_twice, line, member, content, leads line member "start_2" content⟩

end Narrative
