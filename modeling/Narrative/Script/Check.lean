import Narrative.Script.Basic
import Narrative.Script.Conflict
import Narrative.Script.Policy
import Narrative.Script.Report

/-!
The check of a script. It runs nothing: each line is looked at by itself, together with the labels
that the whole script defines and names. A line's findings are about its speaker, its directive, its
modifier block and last its label. A script is accepted if no finding is an error.
-/
namespace Narrative

namespace Line

/-- A name in front of the text that no speaker has. -/
def speakerIssues (line : Line) : List Issue :=
  match line.content with
  | .dialogue _ _ (some name) => [⟨.unknownSpeaker, [name]⟩]
  | _ => []

/-- The defect that unsound arguments of a directive are. -/
def argumentIssue (keyword : Keyword) : ArgumentFault → Issue
  | .missing =>
    match keyword with
    | .label => ⟨.labelMissingName, []⟩
    | .jumpto => ⟨.jumptoMissingTarget, []⟩
    | .pause => ⟨.pauseMissingArgument, []⟩
    | _ => ⟨.nowplayingMissingArgument, []⟩
  | .tooMany count =>
    match keyword with
    | .label => ⟨.labelTooManyArguments, [toString count]⟩
    | .jumpto => ⟨.jumptoTooManyArguments, [toString count]⟩
    | _ => ⟨.pauseTooManyArguments, [toString count]⟩
  | .unexpected args => ⟨.breakWithArgument, args⟩
  | .notInteger text => ⟨.pauseNotInteger, [text]⟩
  | .negative text => ⟨.pauseNegative, [text]⟩
  | .invertedRange min max => ⟨.pauseInvertedRange, [toString min, toString max]⟩
  | .missingPrefix label => ⟨.autoswitchMissingPrefix, [label]⟩
  | .missingSuffix base => ⟨.autoswitchMissingSuffix, [base]⟩
  | .wrongCount count => ⟨.autoswitchWrongArity, [keyword.name, toString count]⟩
  | .noLabels => ⟨.switchjumpNoLabels, [keyword.name]⟩
  | .unpaired count => ⟨.switchjumpUnpairedArguments, [toString count]⟩

/-- The labels that a directive spells out and the script does not define, each once. -/
def missingLabels (labels : LabelTable) (directive : Directive) : List String :=
  distinctFrom [] (directive.references.filter (!labels.contains ·))

/-- One issue for all the labels that are missing. -/
def referenceIssues (labels : LabelTable) (defect : Defect) (directive : Directive) : List Issue :=
  let missing := missingLabels labels directive
  if missing.isEmpty then [] else [⟨defect, missing⟩]

/-- What is wrong with a directive whose arguments are sound. -/
def soundDirectiveIssues (labels : LabelTable) (size : Nat) (line : Line) (directive : Directive) : List Issue :=
  match directive with
  | .jumpto (.line n) => if 1 ≤ n && n ≤ size then [] else [⟨.jumptoIndexOutOfRange, [toString n]⟩]
  | .jumpto (.label _) => referenceIssues labels .jumptoUnknownLabel directive
  | .halt => if line.hasFlagGate then [] else [⟨.breakWithoutFlag, []⟩]
  | .sourceSwitch base =>
    if (labels.withPrefix base).isEmpty then [⟨.autoswitchNoSuffixedLabel, [base]⟩] else []
  | .firstSwitch _ | .moodSwitch _ | .bladeSwitch _ _ _ => referenceIssues labels .autoswitchUnknownLabel directive
  | .switchJump _ | .numSwitchJump _ | .stringSwitchJump _ => referenceIssues labels .switchjumpUnknownLabel directive
  | .label _ | .pause _ _ | .nowPlaying _ => []

/-- What is wrong with the directive of a line in a script with given labels and size. -/
def directiveIssues (labels : LabelTable) (size : Nat) (line : Line) : List Issue :=
  match line.content with
  | .directive keyword args =>
    match Directive.read keyword args with
    | .ok directive => soundDirectiveIssues labels size line directive
    | .error fault => [argumentIssue keyword fault]
  | _ => []

/-- The defect that an entry without meaning is. -/
def entryIssue : ModifierFault → Issue
  | .unknown name => ⟨.unknownModifier, [name]⟩
  | .malformed source => ⟨.malformedArguments, [source]⟩
  | .flagArgument name => ⟨.flagWithArgument, [name]⟩
  | .interruptArgument => ⟨.interruptWithArgument, []⟩
  | .contextCount name count => ⟨.contextArity, [name, toString count]⟩
  | .notInteger text => ⟨.ifNumNotInteger, [text]⟩
  | .missingVoice => ⟨.checkNoVoiceMissingArgument, []⟩
  | .unknownPersonas names => ⟨.unknownPersona, names⟩

/-- The entries of a line that mean nothing. -/
def entryIssues (entries : List Entry) : List Issue :=
  entries.filterMap fun entry =>
    match Modifier.ofEntry entry with
    | .ok _ => none
    | .error fault => some (entryIssue fault)

/-- What is wrong with the modifiers that a line evaluates, as they stand and with each other. -/
def modifierIssues (line : Line) : List Issue :=
  let distinct := distinctFrom [] line.modifiers
  (repeatedFrom [] line.modifiers).map (fun m => ⟨.redundantModifier, [m.name]⟩) ++
    (if line.hasInterrupt && !line.isDialogue then [⟨.interruptOnNonDialogue, []⟩] else []) ++
    (if distinct.contains (.checkVoice []) && line.persona?.isNone then
      [⟨.checkVoiceWithoutPersona, [(line.speaker?.map Speaker.name).getD "no speaker"]⟩]
    else []) ++
    Conflict.issues line.keyword? line.persona? distinct

/-- What is wrong with the modifier block of a line. -/
def blockIssues (line : Line) : List Issue :=
  match line.block with
  | .absent => []
  | .empty => [⟨.emptyModifierList, []⟩]
  | .dividers count => [⟨.multipleDividers, [toString count]⟩]
  | .entries entries =>
    if line.content.ignoresModifiers then [⟨.modifiersIgnored, entries.map (·.name)⟩]
    else entryIssues entries ++ modifierIssues line

/-- What is wrong with the label that a line defines, given the labels that the script uses. -/
def labelIssues (labels : LabelTable) (used : List String) (line : Line) : List Issue :=
  match line.definition? with
  | none => []
  | some name =>
    if labels.line? name != some line.index then [⟨.labelDuplicate, [name]⟩]
    else if used.contains name then []
    else [⟨.labelUnreferenced, [name]⟩]

/-- All that is wrong with a line of a script with given labels, size and used labels. -/
def issues (labels : LabelTable) (size : Nat) (used : List String) (line : Line) : List Issue :=
  line.speakerIssues ++ line.directiveIssues labels size ++ line.blockIssues ++ line.labelIssues labels used

end Line

/-- The labels that a directive uses: those that it spells out, and those that begin with the base of
a source switch. -/
def Directive.uses (labels : LabelTable) : Directive → List String
  | .sourceSwitch base => (labels.withPrefix base).map (·.name)
  | directive => directive.references

/-- An issue at a line, as severe as a policy says. -/
def Issue.finding (line : Line) (policy : Policy) (issue : Issue) : Finding :=
  ⟨line.index, line.span, issue.defect, issue.details, policy.severityOf issue.defect⟩

namespace Script

/-- The labels that the directives of a script use, gated or not. -/
def used (script : Script) : List String :=
  let labels := script.labels
  script.lines.flatMap fun line => (line.directive?.map (Directive.uses labels)).getD []

/-- What is wrong with a line of the script. -/
def issues (script : Script) (line : Line) : List Issue := line.issues script.labels script.size script.used

/-- All that is wrong with a script. -/
def check (policy : Policy) (script : Script) : Report :=
  let labels := script.labels
  let used := script.used
  script.lines.flatMap fun line => (line.issues labels script.size used).map (·.finding line policy)

/-- Whether the check finds no error. -/
def accepted (policy : Policy) (script : Script) : Bool := !(script.check policy).hasErrors

end Script
end Narrative
