import Narrative.Script.Line
import Narrative.Story.Condition

/-!
The gates of a line: the conditions that its modifiers put on the story state, in three groups that
are tried one after the other. A line runs where every condition of every group holds
(`blockedBy_eq_none`).
-/
namespace Narrative

/-- The groups of gates, in the order in which they are tried. -/
inductive GateKind where
  | flag | persona | context
  deriving DecidableEq

/-- The conditions that a line puts on the story state. -/
structure Gates where
  flags : List Condition := []
  personas : List Condition := []
  context : List Condition := []

/-- The condition that a check of the story state is. -/
def ContextCheck.condition : ContextCheck → Condition
  | source value => .source value
  | string value => .string value
  | number value => .number value

namespace Modifier

/-- The condition on flags that a modifier is. -/
def flagConditions : Modifier → List Condition
  | flag f negated => [.negatedIf negated (.flag f)]
  | _ => []

/-- The conditions on personas that a modifier of a line spoken by `speaker` is. -/
def personaConditions (speaker : Option Persona) : Modifier → List Condition
  | checkVoice [] => speaker.toList.map .voice
  | checkVoice personas => personas.map .voice
  | checkNoVoice personas => personas.map fun p => .not (.voice p)
  | _ => []

/-- The condition on the rest of the story state that a modifier is. -/
def contextConditions : Modifier → List Condition
  | context check negated => [.negatedIf negated check.condition]
  | _ => []

end Modifier

namespace Gates

/-- The gates that modifiers of a line spoken by `speaker` are. -/
def ofModifiers (speaker : Option Persona) (ms : List Modifier) : Gates where
  flags := ms.flatMap Modifier.flagConditions
  personas := ms.flatMap (Modifier.personaConditions speaker)
  context := ms.flatMap Modifier.contextConditions

/-- Whether there is no condition. -/
def isEmpty (g : Gates) : Bool := g.flags.isEmpty && g.personas.isEmpty && g.context.isEmpty

/-- Every condition, in the order in which they are tried. -/
def conditions (g : Gates) : List Condition := g.flags ++ g.personas ++ g.context

/-- The first group with a condition that does not hold. -/
def blockedBy (g : Gates) (ctx : Context) : Option GateKind :=
  if g.flags.all (·.holds ctx) then
    if g.personas.all (·.holds ctx) then
      if g.context.all (·.holds ctx) then none else some .context
    else some .persona
  else some .flag

/-- Nothing blocks a line exactly where all its conditions hold. -/
theorem blockedBy_eq_none (g : Gates) (ctx : Context) :
    g.blockedBy ctx = none ↔ ∀ c ∈ g.conditions, c.holds ctx = true := by
  have every : (∀ c ∈ g.conditions, c.holds ctx = true) ↔
      (g.flags.all (·.holds ctx) && g.personas.all (·.holds ctx) && g.context.all (·.holds ctx)) = true := by
    simp [conditions, or_imp, forall_and, and_assoc]
  rw [every, blockedBy]
  cases g.flags.all (·.holds ctx) <;> cases g.personas.all (·.holds ctx) <;>
    cases g.context.all (·.holds ctx) <;> simp

end Gates

/-- The gates of a line. -/
def Line.gates (line : Line) : Gates := Gates.ofModifiers line.persona? line.modifiers

/-- Whether the gates of a line let it run in a context. -/
def Line.runsIn (line : Line) (ctx : Context) : Bool := (line.gates.blockedBy ctx).isNone

end Narrative
