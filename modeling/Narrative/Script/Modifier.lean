import Narrative.Cast.Persona
import Narrative.Number.Integer
import Narrative.Script.Span
import Narrative.Story.Flag

/-!
Modifiers: the gates of a line and the mark that the next line interrupts it. An entry of a block
is its name, its arguments and where it stands; it is read by its name first and its arguments then.
-/
namespace Narrative

/-- The arguments of an entry. -/
inductive EntryArgs where
  /-- There are no parentheses. -/
  | absent
  | list (values : List String)
  /-- The entry has no sound shape; its source is kept. -/
  | malformed (source : String)
  deriving DecidableEq

/-- An entry of a modifier block as it is written; its name is in lower case. -/
structure Entry where
  name : String
  args : EntryArgs
  span : Span
  deriving DecidableEq

/-- The parts of the story state that gates compare with a value. -/
inductive ContextKind where
  | source | string | number
  deriving DecidableEq

namespace ContextKind

/-- Every kind. -/
def all : List ContextKind := [source, string, number]

/-- The name of the modifier that demands a value of this kind. -/
def name : ContextKind → String
  | source => "ifsource"
  | string => "ifstring"
  | number => "ifnum"

end ContextKind

/-- A value that a part of the story state is compared with. -/
inductive ContextCheck where
  | source (value : String)
  | string (value : String)
  | number (value : Int)
  deriving DecidableEq

namespace ContextCheck

/-- The part of the state that is compared. -/
def kind : ContextCheck → ContextKind
  | source _ => .source
  | string _ => .string
  | number _ => .number

/-- The value in words. -/
def text : ContextCheck → String
  | source value | string value => value
  | number value => toString value

end ContextCheck

/-- What an entry of a block means. -/
inductive Modifier where
  | flag (flag : Flag) (negated : Bool)
  /-- All these personas are present; none listed stands for the one that speaks. -/
  | checkVoice (personas : List Persona)
  /-- None of these personas is present. -/
  | checkNoVoice (personas : List Persona)
  | context (check : ContextCheck) (negated : Bool)
  /-- The next line does not wait for this one. -/
  | interrupt
  deriving DecidableEq

/-- Why an entry means nothing. -/
inductive ModifierFault where
  | unknown (name : String)
  | malformed (source : String)
  | flagArgument (name : String)
  | interruptArgument
  | contextCount (name : String) (count : Nat)
  | notInteger (text : String)
  | missingVoice
  | unknownPersonas (names : List String)
  deriving DecidableEq

/-- What the name of an entry asks for. -/
inductive ModifierName where
  | flag (flag : Flag) (negated : Bool)
  | checkVoice
  | checkNoVoice
  | context (kind : ContextKind) (negated : Bool)
  | interrupt
  deriving DecidableEq

/-- The flag that a name demands, or denies where it begins with `not`. -/
def ModifierName.ofFlag? (name : String) : Option ModifierName :=
  match name.toList with
  | 'n' :: 'o' :: 't' :: rest => (Flag.ofName? (String.ofList rest)).map (.flag · true)
  | _ => (Flag.ofName? name).map (.flag · false)

/-- What a name asks for. -/
def ModifierName.ofName? (name : String) : Option ModifierName :=
  match name with
  | "interrupt" => some .interrupt
  | "checkvoice" => some .checkVoice
  | "checknovoice" => some .checkNoVoice
  | "ifsource" => some (.context .source false)
  | "ifsourcenot" => some (.context .source true)
  | "ifstring" => some (.context .string false)
  | "ifstringnot" => some (.context .string true)
  | "ifnum" => some (.context .number false)
  | "ifnumnot" => some (.context .number true)
  | other => ofFlag? other

namespace Modifier

/-- The name of a modifier in scripts. -/
def name : Modifier → String
  | flag f negated => (if negated then "not" else "") ++ f.name
  | checkVoice _ => "checkvoice"
  | checkNoVoice _ => "checknovoice"
  | context check negated => check.kind.name ++ if negated then "not" else ""
  | interrupt => "interrupt"

/-- Whether a modifier asks for a flag. -/
def isFlag : Modifier → Bool
  | flag _ _ => true
  | _ => false

/-- The personas with the names listed, or all the names that no persona has. -/
def personas (names : List String) : Except ModifierFault (List Persona) :=
  let unknown := names.filter fun n => (Persona.ofName? n).isNone
  if unknown.isEmpty then .ok (names.filterMap Persona.ofName?) else .error (.unknownPersonas unknown)

/-- The check that a value of a kind writes. -/
def readCheck : ContextKind → String → Except ModifierFault ContextCheck
  | .source, value => .ok (.source value)
  | .string, value => .ok (.string value)
  | .number, value =>
    match Number.integer? value with
    | some n => .ok (.number n)
    | none => .error (.notInteger value)

/-- The modifier that a known name and its arguments write. -/
def readNamed (name : String) : ModifierName → List String → Except ModifierFault Modifier
  | .flag f negated, args => if args.isEmpty then .ok (flag f negated) else .error (.flagArgument name)
  | .interrupt, args => if args.isEmpty then .ok interrupt else .error .interruptArgument
  | .checkVoice, args => checkVoice <$> personas args
  | .checkNoVoice, args => if args.isEmpty then .error .missingVoice else checkNoVoice <$> personas args
  | .context kind negated, [value] => (context · negated) <$> readCheck kind value
  | .context _ _, args => .error (.contextCount name args.length)

/-- The modifier that a name and its arguments write. -/
def readList (name : String) (args : List String) : Except ModifierFault Modifier :=
  match ModifierName.ofName? name with
  | some known => readNamed name known args
  | none => .error (.unknown name)

/-- The modifier that an entry writes. -/
def ofEntry (entry : Entry) : Except ModifierFault Modifier :=
  match entry.args with
  | .malformed source => .error (.malformed source)
  | .absent => readList entry.name []
  | .list args => readList entry.name args

end Modifier
end Narrative
