import Narrative.Proofs.Script.Details
import Narrative.Proofs.Script.Passes
import Narrative.Shell.Program

/-!
Reports as lines of text. Whatever a script holds, its report takes the lines in their order, and as text it has one
line for each finding (`Report.lines_text`). So the name of a file that the program puts in front of each line of a
report stands in front of each finding and nowhere else (`check_listed`).
-/
namespace Narrative

/-- A report on a script goes from line to line, and its text is a list of its findings, one on each line. -/
structure Report.Lists (report : Report) (script : Script) : Prop where
  ordered : report.Pairwise fun finding later => finding.line ≤ later.line
  placed : ∀ finding ∈ report, ∃ line, script.line? finding.line = some line ∧ finding.span = line.span
  quotes : ∀ finding ∈ report, ∀ detail ∈ finding.details, '\n' ∉ detail.toList
  text : Script.chunks report.text.toList =
    report.map fun finding => (finding.severity.name ++ ": " ++ finding.describe ++ "\n").toList
  named : ∀ file, Program.listed file report =
    report.map fun finding => file ++ ": " ++ (finding.severity.name ++ ": " ++ finding.describe)

theorem Severity.oneLine_name (severity : Severity) : Text.OneLine severity.name := by
  cases severity <;> decide

theorem Heading.oneLine_name (heading : Heading) : Text.OneLine heading.name := by
  cases heading <;> decide

/-- The subtype of a defect has letters, and none of them ends a line or begins its end. -/
theorem Defect.plain_subtype (defect : Defect) :
    Text.OneLine defect.subtype ∧ '\r' ∉ defect.subtype.toList ∧ defect.subtype.toList ≠ [] := by
  cases defect <;> decide +kernel

namespace Finding
variable {finding : Finding}

theorem oneLine_textLine (quotes : ∀ detail ∈ finding.details, Text.OneLine detail) :
    Text.OneLine finding.textLine := by
  obtain ⟨subtype, _⟩ := finding.defect.plain_subtype
  have colon : Text.OneLine ": " := by decide
  have line : Text.OneLine "line " := by decide
  have comma : Text.OneLine ", " := by decide
  have opening : Text.OneLine " [" := by decide
  have closing : Text.OneLine "]" := by decide
  have headline : Text.OneLine finding.headline := (finding.defect.heading.oneLine_name.append colon).append subtype
  have number : Text.OneLine (toString (finding.line + 1)) := Text.oneLine_repr _
  have told : Text.OneLine
      (if finding.details.isEmpty then "" else " [" ++ String.intercalate ", " finding.details ++ "]") := by
    split
    · decide
    · exact (opening.append (comma.intercalate quotes)).append closing
  exact (finding.severity.oneLine_name.append colon).append
    ((((line.append number).append colon).append headline).append told)

/-- A finding ends in its subtype or in a bracket. -/
theorem getLast?_textLine (finding : Finding) : finding.textLine.toList.getLast? ≠ some '\r' := by
  obtain ⟨_, plain, solid⟩ := finding.defect.plain_subtype
  by_cases silent : finding.details.isEmpty = true
  · have whole : finding.textLine.toList = (finding.severity.name ++ ": " ++ ("line " ++ toString (finding.line + 1) ++
        ": " ++ (finding.defect.heading.name ++ ": "))).toList ++ finding.defect.subtype.toList := by
      rw [← String.toList_append]
      simp [textLine, describe, headline, silent, String.append_assoc]
    rw [whole, List.getLast?_append_of_ne_nil _ solid]
    exact fun last => plain (List.mem_of_getLast? last)
  · have whole : finding.textLine.toList = (finding.severity.name ++ ": " ++ ("line " ++ toString (finding.line + 1) ++
        ": " ++ finding.headline ++ (" [" ++ String.intercalate ", " finding.details))).toList ++ "]".toList := by
      rw [← String.toList_append]
      simp [textLine, describe, silent, String.append_assoc]
    rw [whole, List.getLast?_append_of_ne_nil _ (by decide)]
    decide

end Finding

namespace Report

theorem toList_text_cons (finding : Finding) (rest : Report) :
    (text (finding :: rest)).toList = finding.textLine.toList ++ '\n' :: (text rest).toList := by
  simp [text]

section
variable {report : Report} (quotes : ∀ finding ∈ report, ∀ detail ∈ finding.details, Text.OneLine detail)
include quotes

/-- Each line of a report ends after a finding. -/
theorem chunks_text :
    Script.chunks report.text.toList = report.map fun finding => (finding.textLine ++ "\n").toList := by
  induction report with
  | nil => rfl
  | cons finding rest ih =>
    obtain ⟨here, later⟩ := List.forall_mem_cons.mp quotes
    rw [toList_text_cons, Script.chunks_append_feed (Finding.oneLine_textLine here), ih later, List.map_cons,
      String.toList_append]
    rfl

/-- The lines of a report are its findings. -/
theorem lines_text : Text.lines report.text.toList = report.map fun finding => finding.textLine.toList := by
  induction report with
  | nil => rfl
  | cons finding rest ih =>
    obtain ⟨here, later⟩ := List.forall_mem_cons.mp quotes
    rw [toList_text_cons, Text.lines_append_feed (Finding.oneLine_textLine here) finding.getLast?_textLine, ih later,
      List.map_cons]

end

/-- The check of a parsed script lists what it finds. -/
theorem lists_check (policy : Policy) (name source : String) :
    ((Script.parse name source).check policy).Lists (Script.parse name source) := by
  have quotes : ∀ finding ∈ (Script.parse name source).check policy, ∀ detail ∈ finding.details,
      Text.OneLine detail := by
    intro finding reported
    obtain ⟨line, member, issue, among, rfl⟩ := mem_check_iff.mp reported
    exact (Line.onOneLine_of_parse member).issues _ _ _ issue among
  refine ⟨?_, fun finding reported => ?_, quotes, chunks_text quotes, fun file => ?_⟩
  · exact pairwise_ofLines (Script.pairwise_index name source)
  · obtain ⟨line, member, issue, _, rfl⟩ := mem_check_iff.mp reported
    exact ⟨line, (Script.placed_of_parse name source).line?_of_mem member, rfl⟩
  · rw [Program.listed, lines_text quotes, List.map_map]
    refine List.map_congr_left fun finding _ => ?_
    rw [Function.comp_apply, String.ofList_toList]
    rfl

end Report

namespace Program

/-- What is printed of a file: nothing if it cannot be read, and otherwise its name in front of each finding. -/
def findingsOf (disk : Disk) (policy : Policy) (file : String) : List String :=
  (Script.ofFile disk file file).toOption.toList.flatMap fun script =>
    (script.check policy).map fun finding => file ++ ": " ++ (finding.severity.name ++ ": " ++ finding.describe)

theorem exists_parse_of_ofFile {disk : Disk} {name path : String} {script : Script}
    (read : Script.ofFile disk name path = .ok script) : ∃ source, script = Script.parse name source := by
  unfold Script.ofFile Script.ofBytes at read
  split at read
  · split at read <;> cases read
    exact ⟨_, rfl⟩
  · cases read

theorem printed_check (disk : Disk) (settings : Settings) {paths files : List String}
    (expanded : expand disk paths = .ok files) : ∃ errors notes,
      (check disk settings paths .text).printed =
        files.flatMap (findingsOf disk settings.policy) ++ [summary files.length errors notes] := by
  unfold check
  rw [expanded]
  refine ⟨_, _, congrArg (· ++ [_]) ?_⟩
  rw [reports, List.filterMap_map, List.filterMap_eq_flatMap_toList, List.flatMap_assoc]
  refine List.flatMap_congr fun file _ => ?_
  rw [findingsOf, Function.comp_apply]
  cases read : Script.ofFile disk file file with
  | error fault => rfl
  | ok script =>
    obtain ⟨source, rfl⟩ := exists_parse_of_ofFile read
    have named := (Report.lists_check settings.policy file source).named file
    simpa [Except.map, Except.toOption] using named

end Program

/-- A report goes from line to line and has a line of text for each finding, although labels are looked at in a pass of
    their own. So the program prints the name of a file in front of each finding in it. -/
theorem check_listed :
    (∀ policy name source,
      ((Script.parse name source).check policy).Lists (Script.parse name source) ∧
      (Script.parse name source).check policy =
        ((Script.parse name source).lineFindings policy ++ (Script.parse name source).labelFindings policy).mergeSort
          fun finding later => finding.line ≤ later.line) ∧
    ∀ disk settings paths files, Program.expand disk paths = .ok files → ∃ errors notes,
      (Program.check disk settings paths .text).printed =
        files.flatMap (Program.findingsOf disk settings.policy) ++ [Program.summary files.length errors notes] := by
  refine ⟨fun policy name source => ⟨?_, ?_⟩, fun disk settings paths files expanded => ?_⟩
  · exact Report.lists_check policy name source
  · exact Script.check_eq_passes policy name source
  · exact Program.printed_check disk settings expanded

/-- A file with one line, of which there are two findings. -/
theorem check_listed_of_stranger :
    let disk := FileTree.disk (.folder [("a.script",
      .file [66, 111, 98, 58, 32, 104, 105, 32, 47, 47, 47, 32, 105, 102, 110, 117, 109, 40, 195, 169])])
    Program.expand disk ["a.script"] = .ok ["a.script"] ∧ ∃ errors notes,
      (Program.check disk {} ["a.script"] .text).printed =
        ["a.script: note: line 1: unknown speaker: unknown speaker [Bob]",
          "a.script: error: line 1: invalid modifier: malformed arguments [ifnum(é]"] ++
        [Program.summary 1 errors notes] := by
  intro disk
  have facts : Program.expand disk ["a.script"] = .ok ["a.script"] ∧
      ["a.script"].flatMap (Program.findingsOf disk {}) =
        ["a.script: note: line 1: unknown speaker: unknown speaker [Bob]",
          "a.script: error: line 1: invalid modifier: malformed arguments [ifnum(é]"] := by
    decide +kernel
  obtain ⟨expanded, told⟩ := facts
  refine ⟨expanded, ?_⟩
  have printed := check_listed.2 disk {} ["a.script"] ["a.script"] expanded
  rwa [told] at printed

end Narrative
