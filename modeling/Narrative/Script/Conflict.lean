import Narrative.Script.Defect
import Narrative.Script.Line

/-!
Modifiers of one line against each other and against the directive that they gate. Four defects say
that no story state passes the gates of the line: a flag demanded and denied, a value demanded and
denied, two values demanded of one part of the state, and a persona demanded and denied. The others
say that a gate repeats what the line decides by itself, or silences its own speaker.
-/
namespace Narrative

/-- A defect and what is at fault. -/
structure Issue where
  defect : Defect
  details : List String := []
  deriving DecidableEq

/-- The elements of a list that do not occur before their place, `seen` counting as before the list. -/
def distinctFrom {α : Type} [DecidableEq α] (seen : List α) : List α → List α
  | [] => []
  | a :: rest => if a ∈ seen then distinctFrom seen rest else a :: distinctFrom (a :: seen) rest

/-- The elements of a list that occur before their place, `seen` counting as before the list. -/
def repeatedFrom {α : Type} [DecidableEq α] (seen : List α) : List α → List α
  | [] => []
  | a :: rest => if a ∈ seen then a :: repeatedFrom seen rest else repeatedFrom (a :: seen) rest

theorem mem_distinctFrom {α : Type} [DecidableEq α] {seen xs : List α} {a : α} :
    a ∈ distinctFrom seen xs ↔ a ∈ xs ∧ a ∉ seen := by
  induction xs generalizing seen with
  | nil => simp [distinctFrom]
  | cons b rest ih =>
    by_cases old : b ∈ seen <;> by_cases same : a = b <;> simp_all [distinctFrom]

theorem nodup_distinctFrom {α : Type} [DecidableEq α] (seen xs : List α) : (distinctFrom seen xs).Nodup := by
  induction xs generalizing seen with
  | nil => simp [distinctFrom]
  | cons b rest ih =>
    by_cases old : b ∈ seen
    · simpa [distinctFrom, old] using ih seen
    · simpa [distinctFrom, old, mem_distinctFrom] using ih (b :: seen)

theorem distinctFrom_eq_nil {α : Type} [DecidableEq α] {xs : List α} : distinctFrom [] xs = [] ↔ xs = [] := by
  simp only [List.eq_nil_iff_forall_not_mem, mem_distinctFrom]
  simp

namespace Conflict

/-- The flags that modifiers both demand and deny, in their order of declaration. -/
def contradictedFlags (ms : List Modifier) : List Flag :=
  Enumerated.all.filter fun f => ms.contains (.flag f false) && ms.contains (.flag f true)

/-- The flags that a directive reads by itself. -/
def decidedFlags : Keyword → List Flag
  | .firstSwitch => [.firstVessel]
  | .moodSwitch => [.harsh]
  | .bladeSwitch => [.hasBlade, .threwBlade]
  | _ => []

/-- Whether a modifier asks for a flag that the directive reads by itself. -/
def repeatsFlag (keyword : Keyword) : Modifier → Bool
  | .flag f _ => (decidedFlags keyword).contains f
  | _ => false

/-- What is wrong with the flags that modifiers ask for. -/
def flagIssues (keyword : Option Keyword) (ms : List Modifier) : List Issue :=
  ((contradictedFlags ms).map fun f => ⟨.flagAndNegation, [f.name]⟩) ++
    match keyword with
    | none => []
    | some k => (ms.filter (repeatsFlag k)).map fun m => ⟨.flagDuplicatesSwitch, [m.name, k.name]⟩

/-- The values of one kind that modifiers demand, or deny if `negated`. -/
def checksOf (kind : ContextKind) (negated : Bool) (ms : List Modifier) : List ContextCheck :=
  ms.filterMap fun
    | .context check n => if check.kind == kind && n == negated then some check else none
    | _ => none

/-- What is wrong with the checks of one part of the story state. -/
def kindIssues (ms : List Modifier) (kind : ContextKind) : List Issue :=
  let demanded := checksOf kind false ms
  let denied := checksOf kind true ms
  ((demanded.filter denied.contains).map fun c => ⟨.sameValueCheckedAndNegated, [kind.name, c.text]⟩) ++
    if demanded.length > 1 then [⟨.ambiguousContextChecks, demanded.map ContextCheck.text⟩] else []

/-- Whether a modifier asks what the directive decides by itself. -/
def repeatsCheck : Keyword → Modifier → Bool
  | .sourceSwitch, .context check _ => check.kind == .source
  | .numSwitchJump, .context check _ => check.kind == .number
  | .stringSwitchJump, .context check _ => check.kind == .string
  | .switchJump, .checkVoice _ => true
  | .switchJump, .checkNoVoice _ => true
  | _, _ => false

/-- What is wrong with the checks of the story state. -/
def contextIssues (keyword : Option Keyword) (ms : List Modifier) : List Issue :=
  ContextKind.all.flatMap (kindIssues ms) ++
    match keyword with
    | none => []
    | some k => (ms.filter (repeatsCheck k)).map fun m => ⟨.checkDuplicatesSwitch, [m.name, k.name]⟩

/-- The personas that a modifier demands of a line spoken by `speaker`. -/
def demandedBy (speaker : Option Persona) : Modifier → List Persona
  | .checkVoice [] => speaker.toList
  | .checkVoice personas => personas
  | _ => []

/-- The personas that a modifier denies. -/
def deniedBy : Modifier → List Persona
  | .checkNoVoice personas => personas
  | _ => []

/-- The personas that modifiers both demand and deny, in their order of declaration. -/
def contradictedPersonas (speaker : Option Persona) (ms : List Modifier) : List Persona :=
  Enumerated.all.filter fun p =>
    (ms.flatMap (demandedBy speaker)).contains p && (ms.flatMap deniedBy).contains p

/-- What is wrong with the personas that modifiers ask for. -/
def voiceIssues (speaker : Option Persona) (ms : List Modifier) : List Issue :=
  let shared := contradictedPersonas speaker ms
  (if shared.isEmpty then [] else [⟨.voiceRequiredAndExcluded, shared.map Persona.name⟩]) ++
    match speaker with
    | some p => if (ms.flatMap deniedBy).contains p then [⟨.speakerExcluded, [p.name]⟩] else []
    | none => []

/-- What is wrong with modifiers that are all different, on a line with a keyword and a speaker. -/
def issues (keyword : Option Keyword) (speaker : Option Persona) (ms : List Modifier) : List Issue :=
  flagIssues keyword ms ++ contextIssues keyword ms ++ voiceIssues speaker ms

/-- Whether a defect says that nothing passes the gates of the line. -/
def isContradiction : Defect → Bool
  | .flagAndNegation | .sameValueCheckedAndNegated | .ambiguousContextChecks | .voiceRequiredAndExcluded => true
  | _ => false

end Conflict
end Narrative
