import Mathlib.Data.List.Sort
import Narrative.Proofs.Script.Bindings
import Narrative.Proofs.Script.Findings

/-!
A check in two passes. Where each line knows its place, the bound labels are the definitions to whose own lines their
names lead, and the duplicates are the others (`LabelTable.foldl_define_eq_filter`). So a check that first goes through
the lines and then through the duplicates and the bound labels finds the same as one that takes the lines one by one,
and a stable sort by lines brings its findings into the same order (`Script.check_eq_passes`).
-/
namespace Narrative

section
variable {α : Type} (key : α → Nat)

theorem key_le_of_tie {a b : α} {xs ys : List α} (sorted : (b :: ys).Pairwise fun a b => key a ≤ key b)
    (tie : (a :: xs).filter (key · == key a) = (b :: ys).filter (key · == key a)) : key b ≤ key a := by
  have here : a ∈ (b :: ys).filter (key · == key a) := by
    rw [← tie]
    simp
  rcases List.mem_cons.mp (List.mem_filter.mp here).1 with rfl | later
  · exact Nat.le_refl _
  · exact List.rel_of_pairwise_cons sorted later

/-- A list in the order of its keys is determined by the elements with each key, in their order. -/
theorem eq_of_ties {xs ys : List α} (sorted : xs.Pairwise fun a b => key a ≤ key b)
    (sorted' : ys.Pairwise fun a b => key a ≤ key b)
    (ties : ∀ k, xs.filter (key · == k) = ys.filter (key · == k)) : xs = ys := by
  induction xs generalizing ys with
  | nil =>
    cases ys with
    | nil => rfl
    | cons b ys => simpa using ties (key b)
  | cons a xs ih =>
    cases ys with
    | nil => simpa using ties (key a)
    | cons b ys =>
      have same : key a = key b :=
        Nat.le_antisymm (key_le_of_tie key sorted (ties _).symm) (key_le_of_tie key sorted' (ties _))
      have first := ties (key a)
      rw [List.filter_cons_of_pos (by simp), List.filter_cons_of_pos (by simp [same])] at first
      obtain ⟨rfl, _⟩ := List.cons.inj first
      refine congrArg _ (ih (List.pairwise_cons.mp sorted).2 (List.pairwise_cons.mp sorted').2 fun k => ?_)
      have more := ties k
      by_cases here : key a = k
      · rw [List.filter_cons_of_pos (by simp [here]), List.filter_cons_of_pos (by simp [here])] at more
        exact (List.cons.inj more).2
      · rwa [List.filter_cons_of_neg (by simp [here]), List.filter_cons_of_neg (by simp [here])] at more

/-- Elements with one key keep their order when a list is sorted by its keys. -/
theorem filter_mergeSort (xs : List α) (k : Nat) :
    (xs.mergeSort fun a b => key a ≤ key b).filter (key · == k) = xs.filter (key · == k) := by
  have trans : ∀ a b c : α, decide (key a ≤ key b) = true → decide (key b ≤ key c) = true →
      decide (key a ≤ key c) = true := by
    simp only [decide_eq_true_eq]
    exact fun a b c => Nat.le_trans
  have total : ∀ a b : α, (decide (key a ≤ key b) || decide (key b ≤ key a)) = true := by
    intro a b
    simpa using Nat.le_total (key a) (key b)
  have level : (xs.filter (key · == k)).Pairwise fun a b => decide (key a ≤ key b) = true := by
    refine List.pairwise_of_forall_mem_list fun a here b here' => ?_
    have first : key a = k := by simpa using (List.mem_filter.mp here).2
    have second : key b = k := by simpa using (List.mem_filter.mp here').2
    rw [first, second]
    exact decide_eq_true (Nat.le_refl k)
  have kept := (List.sublist_mergeSort trans total level List.filter_sublist).filter (key · == k)
  rw [List.filter_filter] at kept
  simp only [Bool.and_self] at kept
  refine (kept.eq_of_length ?_).symm
  exact ((List.mergeSort_perm xs _).filter _).length_eq.symm

end

namespace LabelTable

/-- Whether the name of a label leads to its own line. -/
def leadsTo (table : LabelTable) (label : Label) : Bool := table.line? label.name == some label.line

section
variable {definitions : List Label} {last : Label}

/-- One definition more does not change where the earlier ones lead. -/
theorem leadsTo_of_mem {label : Label} (member : label ∈ definitions) :
    ((definitions ++ [last]).foldl define {}).leadsTo label = (definitions.foldl define {}).leadsTo label := by
  have known : (definitions.find? (·.name == label.name)).isSome = true :=
    List.find?_isSome.mpr ⟨label, member, beq_self_eq_true _⟩
  obtain ⟨first, here⟩ := Option.isSome_iff_exists.mp known
  rw [leadsTo, leadsTo, line?_of_definitions, line?_of_definitions, List.find?_append, here, Option.some_or]

/-- The name of the last definition leads to its line if there was none before. -/
theorem leadsTo_last (apart : ∀ label ∈ definitions, label.line ≠ last.line) :
    ((definitions ++ [last]).foldl define {}).leadsTo last = !(definitions.foldl define {}).contains last.name := by
  rw [leadsTo, ← isSome_line?, line?_of_definitions, line?_of_definitions, List.find?_append]
  cases earlier : definitions.find? (·.name == last.name) with
  | none => simp
  | some first => simpa using apart first (List.mem_of_find?_eq_some earlier)

end

/-- If each definition has a line of its own, those that their names lead to are bound, and the others are
    duplicates. -/
theorem foldl_define_eq_filter {definitions : List Label} (apart : definitions.Pairwise fun a b => a.line ≠ b.line) :
    (definitions.foldl define {}).bound = definitions.filter (definitions.foldl define {}).leadsTo ∧
      (definitions.foldl define {}).duplicates = definitions.filter (!(definitions.foldl define {}).leadsTo ·) := by
  induction definitions using List.reverseRecOn with
  | nil => exact ⟨rfl, rfl⟩
  | append_singleton definitions last ih =>
    obtain ⟨before, _, other⟩ := List.pairwise_append.mp apart
    obtain ⟨bound, duplicates⟩ := ih before
    have kept : definitions.filter ((definitions ++ [last]).foldl define {}).leadsTo =
        (definitions.foldl define {}).bound := by
      rw [bound]
      exact List.filter_congr fun label member => leadsTo_of_mem member
    have left : definitions.filter (!((definitions ++ [last]).foldl define {}).leadsTo ·) =
        (definitions.foldl define {}).duplicates := by
      rw [duplicates]
      exact List.filter_congr fun label member => congrArg _ (leadsTo_of_mem member)
    have new : ((definitions ++ [last]).foldl define {}).leadsTo last =
        !(definitions.foldl define {}).contains last.name :=
      leadsTo_last fun label member => other label member last (List.mem_singleton_self last)
    rw [List.filter_append, List.filter_append, kept, left, List.filter_singleton, List.filter_singleton, new,
      List.foldl_append, List.foldl_cons, List.foldl_nil, define]
    cases (definitions.foldl define {}).contains last.name <;> simp

end LabelTable

namespace Line

/-- All that is wrong with a line but what is wrong with its label. -/
def besidesLabel (labels : LabelTable) (size : Nat) (line : Line) : List Issue :=
  line.speakerIssues ++ line.directiveIssues labels size ++ line.blockIssues

/-- The defect of the label that a line defines, if the label satisfies a condition. -/
def labelDefect (defect : Defect) (p : Label → Bool) (line : Line) : List Issue :=
  (line.definition?.toList.filter fun name => p ⟨name, line.index⟩).map fun name => ⟨defect, [name]⟩

/-- A label is a duplicate, or bound and unused, or there is nothing wrong with it. -/
theorem labelIssues_eq_append (labels : LabelTable) (used : List String) (line : Line) :
    line.labelIssues labels used =
      line.labelDefect .labelDuplicate (!labels.leadsTo ·) ++
        line.labelDefect .labelUnreferenced fun label => !used.contains label.name && labels.leadsTo label := by
  rw [labelIssues, labelDefect, labelDefect]
  cases line.definition? with
  | none => rfl
  | some name =>
    simp only [Option.toList_some, List.filter_singleton, LabelTable.leadsTo]
    cases own : labels.line? name == some line.index with
    | false => simp [bne, own]
    | true => by_cases unused : name ∈ used <;> simp [bne, own, unused]

end Line

namespace Script

/-- The finding that a label has a defect, at the line to which the label leads. -/
def findingAt (policy : Policy) (script : Script) (defect : Defect) (label : Label) : List Finding :=
  (script.line? label.line).toList.map fun line => Issue.finding line policy ⟨defect, [label.name]⟩

/-- What a pass through the lines finds. -/
def lineFindings (policy : Policy) (script : Script) : Report :=
  Report.ofLines policy script.lines (Line.besidesLabel script.labels script.size)

/-- What a pass through the labels finds: first the duplicates, then the bound labels that nothing uses. -/
def labelFindings (policy : Policy) (script : Script) : Report :=
  script.labels.duplicates.flatMap (script.findingAt policy .labelDuplicate) ++
    (script.labels.bound.filter (!script.used.contains ·.name)).flatMap (script.findingAt policy .labelUnreferenced)

/-- Labels that satisfy a condition, taken line by line. -/
theorem flatMap_findingAt {script : Script} (policy : Policy)
    (placed : ∀ line ∈ script.lines, script.line? line.index = some line) (p : Label → Bool) (defect : Defect) :
    ((LabelTable.definitions script.lines).filter p).flatMap (script.findingAt policy defect) =
      Report.ofLines policy script.lines (Line.labelDefect defect p) := by
  rw [LabelTable.definitions, List.filterMap_eq_flatMap_toList, List.filter_flatMap, List.flatMap_assoc]
  refine List.flatMap_congr fun line member => ?_
  rw [Line.labelDefect]
  cases line.definition? with
  | none => rfl
  | some name =>
    simp only [Option.map_some, Option.toList_some, List.filter_singleton]
    cases p ⟨name, line.index⟩ with
    | false => rfl
    | true => simp [findingAt, placed line member]

/-- The definitions of a parsed script stand in the order of their lines. -/
theorem pairwise_definitions (name source : String) :
    (LabelTable.definitions (parse name source).lines).Pairwise fun label other => label.line < other.line := by
  rw [LabelTable.definitions, List.pairwise_filterMap]
  refine (pairwise_index name source).imp fun before first here second there => ?_
  obtain ⟨_, _, rfl⟩ := Option.map_eq_some_iff.mp here
  obtain ⟨_, _, rfl⟩ := Option.map_eq_some_iff.mp there
  exact before

/-- The bound labels of a parsed script are the definitions that their names lead to, and the others are duplicates. -/
theorem labels_eq_filter (name source : String) :
    (parse name source).labels.bound =
        (LabelTable.definitions (parse name source).lines).filter (parse name source).labels.leadsTo ∧
      (parse name source).labels.duplicates =
        (LabelTable.definitions (parse name source).lines).filter (!(parse name source).labels.leadsTo ·) :=
  LabelTable.foldl_define_eq_filter ((pairwise_definitions name source).imp Nat.ne_of_lt)

/-- A pass through the labels of a script takes the lines twice, first for duplicates and then for unused labels. -/
theorem labelFindings_eq_append (policy : Policy) (name source : String) :
    (parse name source).labelFindings policy =
      Report.ofLines policy (parse name source).lines
        (Line.labelDefect .labelDuplicate (!(parse name source).labels.leadsTo ·)) ++
      Report.ofLines policy (parse name source).lines (Line.labelDefect .labelUnreferenced fun label =>
        !(parse name source).used.contains label.name && (parse name source).labels.leadsTo label) := by
  have placed : ∀ line ∈ (parse name source).lines, (parse name source).line? line.index = some line :=
    fun line member => (placed_of_parse name source).line?_of_mem member
  obtain ⟨bound, duplicates⟩ := labels_eq_filter name source
  rw [← flatMap_findingAt policy placed, ← flatMap_findingAt policy placed, ← List.filter_filter, ← bound, ← duplicates]
  rfl

/-- At a place there is at most one line, so what is found there in two passes is what is found there in one. -/
theorem filter_ofLines_append {policy : Policy} {lines : List Line}
    (ascending : lines.Pairwise fun line other => line.index < other.index) (f g : Line → List Issue) (place : Nat) :
    (Report.ofLines policy lines fun line => f line ++ g line).filter (·.line == place) =
      (Report.ofLines policy lines f).filter (·.line == place) ++
        (Report.ofLines policy lines g).filter (·.line == place) := by
  by_cases here : ∃ line ∈ lines, line.index = place
  · obtain ⟨line, member, rfl⟩ := here
    rw [Report.filter_ofLines_of_mem ascending member, Report.filter_ofLines_of_mem ascending member,
      Report.filter_ofLines_of_mem ascending member, List.map_append]
  · have none : lines.filter (·.index == place) = [] :=
      List.filter_eq_nil_iff.mpr fun line member at_place => here ⟨line, member, by simpa using at_place⟩
    rw [Report.filter_ofLines, Report.filter_ofLines, Report.filter_ofLines, none]
    rfl

/-- The check finds what the two passes find, in the order of the lines, and at a line in that of the passes. -/
theorem check_eq_passes (policy : Policy) (name source : String) :
    (parse name source).check policy =
      ((parse name source).lineFindings policy ++ (parse name source).labelFindings policy).mergeSort
        fun finding later => finding.line ≤ later.line := by
  have ascending := pairwise_index name source
  have check_eq : (parse name source).check policy = Report.ofLines policy (parse name source).lines fun line =>
      line.besidesLabel (parse name source).labels (parse name source).size ++
        line.labelIssues (parse name source).labels (parse name source).used := rfl
  refine eq_of_ties Finding.line ?_ ?_ fun place => ?_
  · exact Report.pairwise_ofLines ascending
  · exact List.pairwise_mergeSort' (fun finding later : Finding => finding.line ≤ later.line) _
  · simp only [check_eq, Line.labelIssues_eq_append]
    rw [filter_mergeSort, labelFindings_eq_append, filter_ofLines_append ascending, filter_ofLines_append ascending,
      List.filter_append, List.filter_append]
    rfl

end Script
end Narrative
