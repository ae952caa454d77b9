import Narrative.Number.Integer
import Narrative.Text.Fields
import Narrative.Text.Lowercase

/-!
Directives: their keywords, the arguments that each accepts, and the labels that each names. Every
way in which arguments can be wrong is a fault of its own, and of several the first counts, the
number of arguments before their values.
-/
namespace Narrative

/-- The word that makes a line a directive. -/
inductive Keyword where
  | label | jumpto | halt | pause | firstSwitch | moodSwitch | sourceSwitch | bladeSwitch | switchJump
  | numSwitchJump | stringSwitchJump | nowPlaying
  deriving DecidableEq

namespace Keyword

/-- Every keyword. -/
def all : List Keyword :=
  [label, jumpto, halt, pause, firstSwitch, moodSwitch, sourceSwitch, bladeSwitch, switchJump,
    numSwitchJump, stringSwitchJump, nowPlaying]

/-- The spelling of a keyword. -/
def name : Keyword → String
  | label => "label"
  | jumpto => "jumpto"
  | halt => "break"
  | pause => "pause"
  | firstSwitch => "firstswitch"
  | moodSwitch => "moodswitch"
  | sourceSwitch => "sourceswitch"
  | bladeSwitch => "bladeswitch"
  | switchJump => "switchjump"
  | numSwitchJump => "numswitchjump"
  | stringSwitchJump => "stringswitchjump"
  | nowPlaying => "nowplaying"

/-- The keyword that a word spells in any case. -/
def ofWord? (word : String) : Option Keyword := all.find? fun k => k.name == Text.lower word

/-- Whether the directive chooses by what the story has become. -/
def isAutoswitch : Keyword → Bool
  | firstSwitch | moodSwitch | sourceSwitch | bladeSwitch => true
  | _ => false

/-- Whether the directive chooses among the labels that it lists. -/
def isSwitchjump : Keyword → Bool
  | switchJump | numSwitchJump | stringSwitchJump => true
  | _ => false

end Keyword

/-- Where a jump goes. -/
inductive JumpTarget where
  | label (name : String)
  /-- A line counted from 1, which need not exist. -/
  | line (number : Int)
  deriving DecidableEq

/-- A directive with sound arguments; the labels that it names need not exist. -/
inductive Directive where
  | label (name : String)
  | jumpto (target : JumpTarget)
  /-- The end of a run, which may be resumed. -/
  | halt
  /-- A pause of `min` to `max` seconds. -/
  | pause (min max : Nat)
  /-- A jump on every arrival after the first. -/
  | firstSwitch (target : String)
  /-- A jump on every arrival after the first in the same mood. -/
  | moodSwitch (target : String)
  /-- A jump to the base followed by the source. -/
  | sourceSwitch (base : String)
  | bladeSwitch (held former never : String)
  /-- A jump to the first label whose persona is present. -/
  | switchJump (labels : List String)
  /-- A jump to the label at the counter's place. -/
  | numSwitchJump (labels : List String)
  /-- A jump to the label paired with the string context. -/
  | stringSwitchJump (pairs : List (String × String))
  | nowPlaying (track : String)
  deriving DecidableEq

/-- Why the arguments of a directive are not sound. -/
inductive ArgumentFault where
  | missing
  | tooMany (count : Nat)
  | unexpected (args : List String)
  | notInteger (text : String)
  | negative (text : String)
  | invertedRange (min max : Nat)
  | missingPrefix (label : String)
  | missingSuffix (base : String)
  | wrongCount (count : Nat)
  | noLabels
  | unpaired (count : Nat)
  deriving DecidableEq

namespace Directive

/-- What the target of a first or mood switch begins with. -/
def seenPrefix : String := "seen_"

/-- What the base of a source switch ends with. -/
def sourceSeparator : String := "_"

/-- Whether a text begins with another. -/
def begins (start text : String) : Bool := start.toList.isPrefixOf text.toList

theorem begins_iff {start text : String} : begins start text = true ↔ start.toList <+: text.toList :=
  List.isPrefixOf_iff_prefix

/-- Whether a text ends with another. -/
def ends (stop text : String) : Bool := stop.toList.isSuffixOf text.toList

/-- The only argument. -/
def single : List String → Except ArgumentFault String
  | [] => .error .missing
  | [arg] => .ok arg
  | args => .error (.tooMany args.length)

/-- A label, or a line where the word is an integer. -/
def jumpTarget (word : String) : JumpTarget :=
  match Number.integer? word with
  | some n => .line n
  | none => .label word

/-- A number of seconds. -/
def seconds (word : String) : Except ArgumentFault Nat :=
  match Number.integer? word with
  | none => .error (.notInteger word)
  | some n => if n < 0 then .error (.negative word) else .ok n.toNat

/-- The bounds of a pause. -/
def readPause : List String → Except ArgumentFault Directive
  | [] => .error .missing
  | [word] => do
    let n ← seconds word
    pure (.pause n n)
  | [low, high] => do
    let min ← seconds low
    let max ← seconds high
    if max < min then .error (.invertedRange min max) else pure (.pause min max)
  | args => .error (.tooMany args.length)

/-- The target of a first or mood switch. -/
def readSeen (make : String → Directive) : List String → Except ArgumentFault Directive
  | [target] => if begins seenPrefix target then .ok (make target) else .error (.missingPrefix target)
  | args => .error (.wrongCount args.length)

/-- The base of a source switch. -/
def readSource : List String → Except ArgumentFault Directive
  | [base] => if ends sourceSeparator base then .ok (.sourceSwitch base) else .error (.missingSuffix base)
  | args => .error (.wrongCount args.length)

/-- The three targets of a blade switch. -/
def readBlade : List String → Except ArgumentFault Directive
  | [held, former, never] => .ok (.bladeSwitch held former never)
  | args => .error (.wrongCount args.length)

/-- The labels of a switch, of which there is at least one. -/
def readLabels (make : List String → Directive) (args : List String) : Except ArgumentFault Directive :=
  if args.isEmpty then .error .noLabels else .ok (make args)

/-- The arguments two by two, if none is left over. -/
def pairs? : List String → Option (List (String × String))
  | [] => some []
  | [_] => none
  | value :: target :: rest => (pairs? rest).map ((value, target) :: ·)

/-- The pairs of a string switch, of which there is at least one. -/
def readPairs (args : List String) : Except ArgumentFault Directive :=
  if args.isEmpty then .error .noLabels
  else
    match pairs? args with
    | some pairs => .ok (.stringSwitchJump pairs)
    | none => .error (.unpaired args.length)

/-- The directive that a keyword and its arguments write. -/
def read : Keyword → List String → Except ArgumentFault Directive
  | .label, args => label <$> single args
  | .jumpto, args => (fun word => jumpto (jumpTarget word)) <$> single args
  | .halt, args => if args.isEmpty then .ok halt else .error (.unexpected args)
  | .pause, args => readPause args
  | .firstSwitch, args => readSeen firstSwitch args
  | .moodSwitch, args => readSeen moodSwitch args
  | .sourceSwitch, args => readSource args
  | .bladeSwitch, args => readBlade args
  | .switchJump, args => readLabels switchJump args
  | .numSwitchJump, args => readLabels numSwitchJump args
  | .stringSwitchJump, args => readPairs args
  | .nowPlaying, args => if args.isEmpty then .error .missing else .ok (nowPlaying (String.intercalate " " args))

/-- The keyword of a directive. -/
def keyword : Directive → Keyword
  | label _ => .label
  | jumpto _ => .jumpto
  | halt => .halt
  | pause _ _ => .pause
  | firstSwitch _ => .firstSwitch
  | moodSwitch _ => .moodSwitch
  | sourceSwitch _ => .sourceSwitch
  | bladeSwitch _ _ _ => .bladeSwitch
  | switchJump _ => .switchJump
  | numSwitchJump _ => .numSwitchJump
  | stringSwitchJump _ => .stringSwitchJump
  | nowPlaying _ => .nowPlaying

/-- The labels that a directive spells out, in order; a line number and the base of a source switch
are none. -/
def references : Directive → List String
  | jumpto (.label name) => [name]
  | firstSwitch target | moodSwitch target => [target]
  | bladeSwitch held former never => [held, former, never]
  | switchJump labels | numSwitchJump labels => labels
  | stringSwitchJump pairs => pairs.map (·.2)
  | _ => []

/-- The label that a directive defines. -/
def definition? : Directive → Option String
  | label name => some name
  | _ => none

end Directive
end Narrative
