import Narrative.Command.Vocabulary
import Narrative.Play.Through
import Narrative.Script.Snippet
import Narrative.Shell.Arguments
import Narrative.Shell.Grid
import Narrative.Shell.Library
import Narrative.Shell.Settings
import Narrative.Text.Lines
import Narrative.Text.Wrap

/-!
The commands of the program: checking scripts, playing one, listing the commands of players and the labels
of a script. A command yields what it prints, what it reports aside from that, and the error that it ends
in, if it does. The settings are read before anything else.
-/
namespace Narrative

/-- What a command does. -/
structure Performance where
  /-- What is played on the screen, for a command that plays a script. -/
  played : List Moment := []
  /-- The lines printed, after what is played. -/
  printed : List String := []
  /-- The lines reported aside. -/
  reported : List String := []
  /-- The error in which the command ends. -/
  failure : Option String := none

namespace Performance

/-- A command that does nothing but fail. -/
def failed (message : String) : Performance := { failure := some message }

/-- All lines on the screen. -/
def screen (p : Performance) : List String := p.played.filterMap Moment.written? ++ p.printed

/-- The columns for the text of an error: 80, less a margin. -/
def errorColumns : Nat := 74

/-- The lines in which the error is told. -/
def errorLines (p : Performance) : List String := p.failure.toList.flatMap (Text.wrap errorColumns)

end Performance

namespace Program

/-- The plural of a noun, where the number asks for it. -/
def counted (n : Nat) (noun : String) : String := toString n ++ " " ++ noun ++ if n == 1 then "" else "s"

/-- The files that paths stand for: a folder stands for the scripts below it. -/
def expand (disk : Disk) : List String → Except LoadFault (List String)
  | [] => .ok []
  | path :: rest => do
    let files ← if disk.isFolder path then disk.scripts path else pure [path]
    let others ← expand disk rest
    pure (files ++ others)

/-- The reports on files, each with the name of its file, and the faults of those that cannot be read. -/
def reports (disk : Disk) (policy : Policy) (files : List String) :
    List (String × Except LoadFault (Script × Report)) :=
  files.map fun file => (file, (Script.ofFile disk file file).map fun script => (script, script.check policy))

/-- The entries of a finding in the order of their keys. -/
def sortedEntries (f : Finding) : List (String × Value) :=
  f.entries.mergeSort fun a b => decide (a.1 ≤ b.1)

/-- The data of a report on a file. -/
def fileValue (file : String) (report : Report) : Value :=
  .table [("diagnostics", .list (report.map fun f => .table (sortedEntries f))), ("file", .text file)]

/-- The lines of a report on a file, each after the name of the file. -/
def listed (file : String) (report : Report) : List String :=
  (Text.lines report.text.toList).map fun line => file ++ ": " ++ String.ofList line

/-- The lines that show a report on a file as drawings. -/
def drawing (file : String) (script : Script) (report : Report) : List String :=
  Snippet.drawAll file (fun i => ((script.line? i).map (·.raw)).getD "") report

/-- The line that sums up a check. -/
def summary (files errors notes : Nat) : String :=
  if errors == 0 then "  ok: " ++ counted files "file" ++ " checked, " ++ counted notes "note"
  else
    "  failed: " ++ counted files "file" ++ " checked, " ++ counted errors "error" ++ ", " ++ counted notes "note"

/-- Checks files and folders. -/
def check (disk : Disk) (settings : Settings) (paths : List String) (format : Format) : Performance :=
  match expand disk paths with
  | .error fault => .failed fault.message
  | .ok files =>
    let results := reports disk settings.policy files
    let sound := results.filterMap fun (file, result) =>
      result.toOption.map fun (script, report) => (file, script, report)
    let broken := results.filterMap fun (_, result) =>
      match result with
      | .ok _ => none
      | .error fault => some ("error: " ++ fault.message)
    let errors := (sound.flatMap fun r => r.2.2.errors).length + broken.length
    let notes := (sound.flatMap fun r => r.2.2.notes).length
    let total := summary files.length errors notes
    { printed :=
        match format with
        | .text => (sound.flatMap fun (file, _, report) => listed file report) ++ [total]
        | .json => [Json.render 0 (.list (sound.map fun (file, _, report) => fileValue file report))]
        | .pretty => [total]
      reported := broken ++
        match format with
        | .pretty => sound.flatMap fun (file, script, report) => drawing file script report
        | _ => []
      failure :=
        if errors == 0 then none
        else some (toString errors ++ " error(s) in " ++ toString files.length ++ " file(s)") }

/-- The context that options describe. -/
def contextOf (given : Given) : Except String Context := do
  let bladeName := (given.value? .blade).getD "never"
  let blade ← match Blade.ofName? bladeName with
    | some blade => pure blade
    | none => throw (Blade.unknownMessage bladeName)
  let voices ← (given.values .voice).mapM fun name =>
    match Persona.ofName? name with
    | some persona => pure persona
    | none => throw ("unknown voice '" ++ name ++ "'")
  let flags ← (given.values .flag).mapM fun name =>
    match Flag.ofName? name with
    | some flag => pure flag
    | none => throw ("unknown flag '" ++ name ++ "'")
  let ctx : Context := {
    Context.opening with
    blade, voices := .ofList voices, source := given.value? .source, string := given.value? .string
    number := ((given.value? .number).bind Number.integer?).getD 0 }
  pure (flags.foldl (·.setFlag · true) ctx)

/-- Does something with the script in a file, unless the check finds errors. -/
def withScript (disk : Disk) (settings : Settings) (file : String) (act : Script → Performance) : Performance :=
  match Script.ofFile disk file file with
  | .error fault => .failed fault.message
  | .ok script =>
    match script.fit settings.policy with
    | .ok script => act script
    | .error fault =>
      { reported := drawing file script (script.check settings.policy).errors, failure := some fault.message }

/-- What is said of a run that ends in an error. -/
def endingMessage (script : Script) : Ending → Option String
  | .finished | .broke => none
  | .fault fault => some (fault.message script.name)
  | .deviceFailed => some deviceMessage
  | .endless => some (script.name ++ ": the script never ends")

/-- Plays a script, with the pauses that a source of chance of type `σ` draws. -/
def run (σ : Type) [Generator σ] (disk : Disk) (settings : Settings) (file : String) (given : Given) : Performance :=
  match contextOf given with
  | .error message => .failed message
  | .ok ctx =>
    withScript disk settings file fun script =>
      let play : PlaySettings :=
        if given.has .noWait then { settings.play with wait := false, pauseScale := 0 } else settings.play
      let start := ((given.value? .label).map Start.label).getD .beginning
      let (played, ending) := script.playThrough σ play ctx start
      match endingMessage script ending with
      | none => { played, printed := ["-- end of script --"] }
      | failure => { played, failure }

/-- The lines of a table and of what it counts. -/
def listing (grid : Grid) (noun : String) : List String :=
  grid.lines ++ ["", "  " ++ toString grid.rows.length ++ " " ++ noun]

/-- The synonyms of an argument in one cell. -/
def synonyms : List String → String
  | [] => ""
  | canonical :: others =>
    if canonical.isEmpty then "(none)"
    else if others.isEmpty then canonical
    else canonical ++ " (" ++ String.intercalate ", " others ++ ")"

/-- The row of a command of players. -/
def commandCells (c : Command) : List String :=
  [c.row.verbs.headD ("(" ++ c.name ++ ")"), String.intercalate ", " (c.row.verbs.drop 1),
    match c.row.arguments with
    | .commandName => "[command]"
    | .groups groups => String.intercalate "; " (groups.map synonyms),
    if c.isMeta then "meta" else "gameplay", c.row.description]

/-- Lists the commands of players. -/
def commands : Performance :=
  { printed := listing ⟨["Command", "Aliases", "Arguments", "Kind", "Description"],
      (Enumerated.all : List Command).map commandCells⟩ "commands" }

/-- Lists the labels of a script. -/
def labels (disk : Disk) (settings : Settings) (file : String) : Performance :=
  withScript disk settings file fun script =>
    let bound := script.labels.bound
    { printed :=
        if bound.isEmpty then ["  No labels in " ++ script.name ++ "."]
        else listing ⟨["Label", "Line"], bound.map fun l => [l.name, toString (l.line + 1)]⟩ "labels" }

/-- Carries out a command. -/
def perform (σ : Type) [Generator σ] (disk : Disk) (verb : Verb) (config : Option String) (given : Given) :
    Performance :=
  match Settings.load disk config with
  | .error fault => .failed fault.message
  | .ok settings =>
    match verb with
    | .check => check disk settings given.operands (((given.value? .format).bind Format.ofName?).getD .text)
    | .run => run σ disk settings (given.operands.headD "") given
    | .commands => commands
    | .labels => labels disk settings (given.operands.headD "")

end Program

/-- How a program ends, and what it printed. -/
structure Exit where
  /-- 0 for success, 1 for an error of the command, 2 for a command line that makes no sense. -/
  code : Nat
  performance : Performance

namespace Invocation

/-- The number of the version. -/
def versionNumber : String := "0.1.0"

/-- What there is to know about the command line. -/
def usage : List String :=
  ["Usage: " ++ program ++ " [OPTIONS] <COMMAND>", "", "Commands:", "  check <PATHS>...  Validate script files",
    "  run <FILE>        Run a script", "  commands          Print the player command table",
    "  labels <FILE>     List the labels of a script", "", "Options: --verbose, --config <FILE>, --version, --help"]

/-- Carries out what a command line asks for. -/
def perform (σ : Type) [Generator σ] (disk : Disk) : Invocation → Exit
  | misuse => ⟨2, { reported := usage }⟩
  | help => ⟨0, { printed := usage }⟩
  | version name => ⟨0, { printed := [name ++ " " ++ versionNumber] }⟩
  | command verb config given =>
    let performance := Program.perform σ disk verb config given
    ⟨if performance.failure.isSome then 1 else 0, performance⟩

end Invocation
end Narrative
