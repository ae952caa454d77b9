import Narrative.Story.Context

/-!
Conditions on the state of the story. A condition that reads no state is worth the same in every
context; without a context only such conditions can hold.
-/
namespace Narrative

/-- A condition on the state of the story. -/
inductive Condition where
  | always
  | voice (persona : Persona)
  | flag (flag : Flag)
  | blade (state : Blade)
  | source (value : String)
  | string (value : String)
  | number (value : Int)
  | numberAtLeast (bound : Int)
  | visited (chapter : String)
  | narrator
  | not (inner : Condition)
  | all (parts : List Condition)
  | any (parts : List Condition)
  deriving Inhabited

namespace Condition

mutual

/-- Whether a condition holds in a context. -/
def holds (ctx : Context) : Condition → Bool
  | always => true
  | voice p => ctx.voices.contains p
  | flag f => ctx.hasFlag f
  | blade state => ctx.blade == state
  | source value => ctx.source == some value
  | string value => ctx.string == some value
  | number value => ctx.number == value
  | numberAtLeast bound => bound ≤ ctx.number
  | visited chapter => ctx.hasVisited chapter
  | narrator => ctx.hasNarrator
  | not inner => !inner.holds ctx
  | all parts => allHold ctx parts
  | any parts => anyHolds ctx parts

/-- Whether every condition of a list holds. -/
def allHold (ctx : Context) : List Condition → Bool
  | [] => true
  | c :: rest => c.holds ctx && allHold ctx rest

/-- Whether some condition of a list holds. -/
def anyHolds (ctx : Context) : List Condition → Bool
  | [] => false
  | c :: rest => c.holds ctx || anyHolds ctx rest

end

mutual

/-- Whether some part of a condition reads the state of the story. -/
def readsState : Condition → Bool
  | always => false
  | not inner => inner.readsState
  | all parts | any parts => someReadsState parts
  | _ => true

/-- Whether some condition of a list reads the state of the story. -/
def someReadsState : List Condition → Bool
  | [] => false
  | c :: rest => c.readsState || someReadsState rest

end

/-- Whether a condition holds where there is no context. -/
def holdsStateless (c : Condition) : Bool := !c.readsState && c.holds .blank

/-- The condition, or its negation. -/
def negatedIf (negated : Bool) (c : Condition) : Condition := if negated then .not c else c

end Condition
end Narrative
