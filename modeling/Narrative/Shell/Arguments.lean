import Narrative.Number.Integer
import Narrative.Text.Fields

/-!
The command line. Arguments are taken from left to right, and the first that settles something counts: a
question for the version or for help, or a misuse. An option's value is attached to it or is the argument
after it, which must not look like an option itself. Options that do not say otherwise are given at most
once. After two dashes nothing is an option.
-/
namespace Narrative

/-- An option of the command line. -/
inductive Switch where
  | verbose | config | version | help
  /-- How findings are shown. -/
  | format
  /-- Where a run starts. -/
  | label
  | voice | source | string | number | blade | flag
  /-- Whether lines wait and pauses last. -/
  | noWait
  deriving DecidableEq

namespace Switch

/-- The name after two dashes. -/
def long : Switch → String
  | verbose => "verbose"
  | config => "config"
  | version => "version"
  | help => "help"
  | format => "format"
  | label => "label"
  | voice => "voice"
  | source => "source"
  | string => "string"
  | number => "number"
  | blade => "blade"
  | flag => "flag"
  | noWait => "no-wait"

/-- The letter after one dash. -/
def short? : Switch → Option Char
  | verbose => some 'v'
  | config => some 'c'
  | version => some 'V'
  | help => some 'h'
  | format => some 'f'
  | label => some 'l'
  | _ => none

/-- Whether the option has a value. -/
def takesValue : Switch → Bool
  | verbose | version | help | noWait => false
  | _ => true

/-- Whether the option may be given more than once. -/
def repeats : Switch → Bool
  | verbose | voice | flag => true
  | _ => false

/-- The options that every command has. -/
def general : List Switch := [verbose, config, version, help]

end Switch

/-- How findings are shown. -/
inductive Format where
  | text | json | pretty
  deriving DecidableEq

/-- The format with a name. -/
def Format.ofName? : String → Option Format
  | "text" => some .text
  | "json" => some .json
  | "pretty" => some .pretty
  | _ => none

/-- A piece of the command line. -/
inductive Argument where
  | switch (s : Switch)
  | setting (s : Switch) (value : String)
  | operand (text : String)
  /-- An operand after two dashes. -/
  | literal (text : String)
  | misuse
  deriving DecidableEq

namespace Argument

/-- Whether an argument can be the value of the option before it. -/
def isValueOf (s : Switch) (text : String) : Bool :=
  match text.toList with
  | '-' :: c :: rest => s == .number && (c :: rest).all Char.isDigit
  | _ => true

/-- The pieces that letters after one dash are, and the option that awaits its value in the end. -/
def ofLetters (known : List Switch) : List Char → List Argument × Option Switch
  | [] => ([], none)
  | c :: rest =>
    match known.find? (·.short? == some c) with
    | none => ([.misuse], none)
    | some s =>
      if !s.takesValue then (.switch s :: (ofLetters known rest).1, (ofLetters known rest).2)
      else
        match rest with
        | [] => ([], some s)
        | '=' :: value => ([.setting s (String.ofList value)], none)
        | value => ([.setting s (String.ofList value)], none)

/-- The pieces that a name after two dashes is, and the option that awaits its value. -/
def ofName (known : List Switch) (cs : List Char) : List Argument × Option Switch :=
  let (name, value) := Text.cut (· == '=') cs
  match known.find? (·.long == String.ofList name), value with
  | none, _ => ([.misuse], none)
  | some s, none => if s.takesValue then ([], some s) else ([.switch s], none)
  | some s, some value =>
    if s.takesValue then ([.setting s (String.ofList value)], none) else ([.misuse], none)

/-- The pieces of a command line, each with the arguments after it. -/
def scan (known : List Switch) (awaiting : Option Switch) : List String → List (Argument × List String)
  | [] => if awaiting.isSome then [(.misuse, [])] else []
  | text :: rest =>
    match awaiting with
    | some s =>
      if isValueOf s text then (.setting s text, rest) :: scan known none rest else [(.misuse, rest)]
    | none =>
      match text.toList with
      | ['-', '-'] => rest.map fun text => (.literal text, [])
      | '-' :: '-' :: name =>
        let (pieces, awaiting) := ofName known name
        pieces.map (·, rest) ++ scan known awaiting rest
      | '-' :: c :: letters =>
        let (pieces, awaiting) := ofLetters known (c :: letters)
        pieces.map (·, rest) ++ scan known awaiting rest
      | _ => (.operand text, rest) :: scan known none rest

end Argument

/-- The commands of the program. -/
inductive Verb where
  | check | run | commands | labels
  deriving DecidableEq

namespace Verb

/-- The word for a command. -/
def name : Verb → String
  | check => "check"
  | run => "run"
  | commands => "commands"
  | labels => "labels"

/-- The command that a word calls. -/
def ofName? (word : String) : Option Verb := [check, run, commands, labels].find? (·.name == word)

/-- The options of a command. -/
def switches : Verb → List Switch
  | check => .format :: Switch.general
  | run => [.label, .voice, .source, .string, .number, .blade, .flag, .noWait] ++ Switch.general
  | _ => Switch.general

/-- Whether a command takes a number of operands. -/
def takes (operands : Nat) : Verb → Bool
  | check => 1 ≤ operands
  | run | labels => operands == 1
  | commands => operands == 0

/-- Whether a command takes more operands than a number of them. -/
def takesMore (operands : Nat) : Verb → Bool
  | check => true
  | run | labels => operands == 0
  | commands => false

end Verb

/-- What the arguments of a command say, the latest first. -/
structure Given where
  switches : List Switch := []
  settings : List (Switch × String) := []
  operands : List String := []

namespace Given

/-- Whether an option has been given. -/
def has (g : Given) (s : Switch) : Bool := g.switches.contains s || g.settings.any (·.1 == s)

/-- The values of an option, in the order in which they were given. -/
def values (g : Given) (s : Switch) : List String := (g.settings.filter (·.1 == s)).reverse.map (·.2)

/-- The value of an option that is given at most once. -/
def value? (g : Given) (s : Switch) : Option String := (g.values s).head?

end Given

/-- What a command line asks for. -/
inductive Invocation where
  | misuse
  | help
  /-- The version of the program with a name. -/
  | version (program : String)
  /-- A command, with the settings file that is named. -/
  | command (verb : Verb) (config : Option String) (given : Given)

namespace Invocation

/-- The name of the program. -/
def program : String := "vessel"

/-- Whether an option has a value that it allows. -/
def isAllowed (value : String) : Switch → Bool
  | .config => !value.isEmpty
  | .format => (Format.ofName? value).isSome
  | .number => (Number.integer? value).isSome
  | _ => true

/-- What a piece of the command line adds to those before it, or what it settles. -/
def add (name : String) (more : Nat → Bool) (given : Given) : Argument → Except Invocation Given
  | .misuse => .error .misuse
  | .switch .version => .error (.version name)
  | .switch .help => .error .help
  | .switch s =>
    if given.has s && !s.repeats then .error .misuse else .ok { given with switches := s :: given.switches }
  | .setting s value =>
    if (given.has s && !s.repeats) || !isAllowed value s then .error .misuse
    else .ok { given with settings := (s, value) :: given.settings }
  | .operand text | .literal text =>
    if text.isEmpty || !more given.operands.length then .error .misuse
    else .ok { given with operands := given.operands ++ [text] }

/-- What the arguments after a command ask for; `before` is what stands in front of the command. -/
def ofCommand (before : Given) (verb : Verb) (given : Given) : List (Argument × List String) → Invocation
  | [] =>
    if verb.takes given.operands.length then
      .command verb ((given.value? .config).or (before.value? .config)) given
    else .misuse
  | (piece, _) :: rest =>
    match add (program ++ "-" ++ verb.name) verb.takesMore given piece with
    | .ok given => ofCommand before verb given rest
    | .error settled => settled

/-- The word that asks for help. -/
def helpWord : String := "help"

/-- Whether there is help on the words after the one that asks for it: on the program if there are none,
or on one command. -/
def isHelpTopic : List String → Bool
  | [] => true
  | [word] => word == helpWord || (Verb.ofName? word).isSome
  | _ => false

/-- What the arguments ask for, given those before that are not the command. -/
def ofPieces (before : Given) : List (Argument × List String) → Invocation
  | [] => .misuse
  | (.operand word, rest) :: _ =>
    match Verb.ofName? word with
    | some verb => ofCommand before verb {} (Argument.scan verb.switches none rest)
    | none => if word == helpWord && isHelpTopic rest then .help else .misuse
  | (piece, _) :: rest =>
    match add program (fun _ => false) before piece with
    | .ok before => ofPieces before rest
    | .error settled => settled

/-- What a command line asks for. -/
def ofArguments (arguments : List String) : Invocation := ofPieces {} (Argument.scan Switch.general none arguments)

end Invocation
end Narrative
