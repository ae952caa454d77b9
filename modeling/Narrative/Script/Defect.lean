import Narrative.Enumerated

/-!
The defects that the check of a script can find. Each has a code that settings use, a heading and a
subtype under it, and a severity that settings can change.
-/
namespace Narrative

/-- Whether a finding makes a script unfit to run. -/
inductive Severity where
  | error | note
  deriving DecidableEq

namespace Severity

/-- The name of a severity. -/
def name : Severity → String
  | error => "error"
  | note => "note"

/-- The severity with a name. -/
def ofName? (text : String) : Option Severity :=
  match text with
  | "error" => some .error
  | "note" => some .note
  | _ => none

end Severity

/-- What a defect is about. -/
inductive Heading where
  | pause | halt | jumpto | autoswitch | switchjump | nowPlaying | label | modifier | interrupt | checkVoice
  | conflict | unknownSpeaker
  deriving DecidableEq

/-- The words of a heading. -/
def Heading.name : Heading → String
  | pause => "invalid pause"
  | halt => "invalid break"
  | jumpto => "invalid jumpto"
  | autoswitch => "invalid autoswitch"
  | switchjump => "invalid switchjump"
  | nowPlaying => "invalid nowplaying"
  | label => "invalid label"
  | modifier => "invalid modifier"
  | interrupt => "invalid interrupt"
  | checkVoice => "invalid checkvoice"
  | conflict => "conflicting modifiers"
  | unknownSpeaker => "unknown speaker"

/-- A defect of a script. -/
inductive Defect where
  | pauseMissingArgument | pauseTooManyArguments | pauseNotInteger | pauseNegative | pauseInvertedRange
  | breakWithArgument | breakWithoutFlag | jumptoMissingTarget | jumptoTooManyArguments
  | jumptoIndexOutOfRange | jumptoUnknownLabel | autoswitchMissingPrefix | autoswitchMissingSuffix
  | autoswitchWrongArity | autoswitchUnknownLabel | autoswitchNoSuffixedLabel | switchjumpNoLabels
  | switchjumpUnpairedArguments | switchjumpUnknownLabel | nowplayingMissingArgument | labelMissingName
  | labelTooManyArguments | labelDuplicate | labelUnreferenced | multipleDividers | emptyModifierList
  | unknownModifier | malformedArguments | flagWithArgument | contextArity | ifNumNotInteger
  | checkNoVoiceMissingArgument | unknownPersona | redundantModifier | modifiersIgnored
  | interruptOnNonDialogue | interruptWithArgument | checkVoiceWithoutPersona | flagAndNegation
  | flagDuplicatesSwitch | checkDuplicatesSwitch | sameValueCheckedAndNegated | ambiguousContextChecks
  | voiceRequiredAndExcluded | speakerExcluded | unknownSpeaker
  deriving DecidableEq

namespace Defect

instance : Enumerated Defect where
  all := [
    pauseMissingArgument, pauseTooManyArguments, pauseNotInteger, pauseNegative, pauseInvertedRange,
    breakWithArgument, breakWithoutFlag, jumptoMissingTarget, jumptoTooManyArguments, jumptoIndexOutOfRange,
    jumptoUnknownLabel, autoswitchMissingPrefix, autoswitchMissingSuffix, autoswitchWrongArity,
    autoswitchUnknownLabel, autoswitchNoSuffixedLabel, switchjumpNoLabels, switchjumpUnpairedArguments,
    switchjumpUnknownLabel, nowplayingMissingArgument, labelMissingName, labelTooManyArguments,
    labelDuplicate, labelUnreferenced, multipleDividers, emptyModifierList, unknownModifier,
    malformedArguments, flagWithArgument, contextArity, ifNumNotInteger, checkNoVoiceMissingArgument,
    unknownPersona, redundantModifier, modifiersIgnored, interruptOnNonDialogue, interruptWithArgument,
    checkVoiceWithoutPersona, flagAndNegation, flagDuplicatesSwitch, checkDuplicatesSwitch,
    sameValueCheckedAndNegated, ambiguousContextChecks, voiceRequiredAndExcluded, speakerExcluded,
    unknownSpeaker]
  mem_all d := by cases d <;> decide

/-- The code of a defect, its heading and its subtype. -/
def row : Defect → String × Heading × String
  | pauseMissingArgument => ("pause-missing-argument", .pause, "missing argument")
  | pauseTooManyArguments => ("pause-too-many-arguments", .pause, "too many arguments")
  | pauseNotInteger => ("pause-not-integer", .pause, "non-integer argument")
  | pauseNegative => ("pause-negative", .pause, "negative argument")
  | pauseInvertedRange => ("pause-inverted-range", .pause, "inverted range")
  | breakWithArgument => ("break-with-argument", .halt, "unexpected argument")
  | breakWithoutFlag => ("break-without-flag", .halt, "no flag condition")
  | jumptoMissingTarget => ("jumpto-missing-target", .jumpto, "missing argument")
  | jumptoTooManyArguments => ("jumpto-too-many-arguments", .jumpto, "too many arguments")
  | jumptoIndexOutOfRange => ("jumpto-index-out-of-range", .jumpto, "index out of range")
  | jumptoUnknownLabel => ("jumpto-unknown-label", .jumpto, "label not found")
  | autoswitchMissingPrefix => ("autoswitch-missing-prefix", .autoswitch, "missing prefix")
  | autoswitchMissingSuffix => ("autoswitch-missing-suffix", .autoswitch, "missing suffix")
  | autoswitchWrongArity => ("autoswitch-wrong-arity", .autoswitch, "wrong argument count")
  | autoswitchUnknownLabel => ("autoswitch-unknown-label", .autoswitch, "label not found")
  | autoswitchNoSuffixedLabel => ("autoswitch-no-suffixed-label", .autoswitch, "no suffixed label")
  | switchjumpNoLabels => ("switchjump-no-labels", .switchjump, "no labels")
  | switchjumpUnpairedArguments => ("switchjump-unpaired-arguments", .switchjump, "unpaired arguments")
  | switchjumpUnknownLabel => ("switchjump-unknown-label", .switchjump, "label not found")
  | nowplayingMissingArgument => ("nowplaying-missing-argument", .nowPlaying, "missing argument")
  | labelMissingName => ("label-missing-name", .label, "missing name")
  | labelTooManyArguments => ("label-too-many-arguments", .label, "too many arguments")
  | labelDuplicate => ("label-duplicate", .label, "duplicate label")
  | labelUnreferenced => ("label-unreferenced", .label, "unreferenced label")
  | multipleDividers => ("multiple-dividers", .modifier, "multiple dividers")
  | emptyModifierList => ("empty-modifier-list", .modifier, "empty modifier list")
  | unknownModifier => ("unknown-modifier", .modifier, "unknown modifier")
  | malformedArguments => ("malformed-arguments", .modifier, "malformed arguments")
  | flagWithArgument => ("flag-with-argument", .modifier, "unexpected argument")
  | contextArity => ("context-arity", .modifier, "wrong argument count")
  | ifNumNotInteger => ("if-num-not-integer", .modifier, "non-integer argument")
  | checkNoVoiceMissingArgument => ("check-no-voice-missing-argument", .modifier, "missing voice argument")
  | unknownPersona => ("unknown-persona", .modifier, "unknown persona")
  | redundantModifier => ("redundant-modifier", .modifier, "redundant modifier")
  | modifiersIgnored => ("modifiers-ignored", .modifier, "modifiers ignored")
  | interruptOnNonDialogue => ("interrupt-on-non-dialogue", .interrupt, "non-dialogue line")
  | interruptWithArgument => ("interrupt-with-argument", .interrupt, "unexpected argument")
  | checkVoiceWithoutPersona => ("check-voice-without-persona", .checkVoice, "speaker is not a persona")
  | flagAndNegation => ("flag-and-negation", .conflict, "flag and negation")
  | flagDuplicatesSwitch => ("flag-duplicates-switch", .conflict, "flag duplicates switch")
  | checkDuplicatesSwitch => ("check-duplicates-switch", .conflict, "check duplicates switch")
  | sameValueCheckedAndNegated => ("same-value-checked-and-negated", .conflict, "same value checked and negated")
  | ambiguousContextChecks => ("ambiguous-context-checks", .conflict, "ambiguous context checks")
  | voiceRequiredAndExcluded => ("voice-required-and-excluded", .conflict, "voice required and excluded")
  | speakerExcluded => ("speaker-excluded", .conflict, "speaker excluded")
  | unknownSpeaker => ("unknown-speaker", .unknownSpeaker, "unknown speaker")

/-- The code under which settings name a defect. -/
def code (d : Defect) : String := d.row.1

/-- What a defect is about. -/
def heading (d : Defect) : Heading := d.row.2.1

/-- What is wrong, under the heading. -/
def subtype (d : Defect) : String := d.row.2.2

/-- The defect with a code. -/
def ofCode? (text : String) : Option Defect := Enumerated.all.find? (·.code == text)

/-- The severity of a defect where settings say nothing. -/
def defaultSeverity : Defect → Severity
  | labelUnreferenced | redundantModifier | modifiersIgnored | unknownSpeaker => .note
  | _ => .error

end Defect
end Narrative
