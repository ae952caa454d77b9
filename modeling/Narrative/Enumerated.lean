/-!
Sets of the values of a finite type. A selection lists its members in the order in which the type
declares them, and every operation is given by the members that it keeps (`Selection.contains_ofPred`).
-/
namespace Narrative

/-- A type whose values are listed, in their order of declaration. -/
class Enumerated (α : Type) where
  all : List α
  mem_all : ∀ a : α, a ∈ all

/-- A set of values of an enumerated type, listed in their order of declaration. -/
structure Selection (α : Type) [Enumerated α] [DecidableEq α] where
  members : List α
  canonical : Enumerated.all.filter (fun a => members.contains a) = members

namespace Selection
variable {α : Type} [Enumerated α] [DecidableEq α]

/-- Whether a value is selected. -/
def contains (s : Selection α) (a : α) : Bool := s.members.contains a

theorem contains_filter_all (p : α → Bool) (a : α) : ((Enumerated.all (α := α)).filter p).contains a = p a := by
  cases h : p a <;> simp [List.mem_filter, h, Enumerated.mem_all]

/-- The values that satisfy `p`. -/
def ofPred (p : α → Bool) : Selection α where
  members := Enumerated.all.filter p
  canonical := List.filter_congr fun a _ => contains_filter_all p a

@[simp] theorem contains_ofPred (p : α → Bool) (a : α) : (ofPred p).contains a = p a :=
  contains_filter_all p a

theorem ext_members {s t : Selection α} (same : s.members = t.members) : s = t := by
  cases s; cases t; cases same; rfl

instance : DecidableEq (Selection α) := fun s t =>
  if same : s.members = t.members then isTrue (ext_members same)
  else isFalse fun equal => same (equal ▸ rfl)

/-- No value. -/
def empty : Selection α := ofPred fun _ => false

/-- Every value. -/
def full : Selection α := ofPred fun _ => true

/-- The values of a list. -/
def ofList (xs : List α) : Selection α := ofPred xs.contains

/-- The selection with one value more. -/
def insert (s : Selection α) (a : α) : Selection α := ofPred fun b => b == a || s.contains b

/-- The selection without one value. -/
def erase (s : Selection α) (a : α) : Selection α := ofPred fun b => b != a && s.contains b

/-- The values in either selection. -/
def union (s t : Selection α) : Selection α := ofPred fun a => s.contains a || t.contains a

/-- The values in both selections. -/
def inter (s t : Selection α) : Selection α := ofPred fun a => s.contains a && t.contains a

/-- The values of the first selection that are not in the second. -/
def diff (s t : Selection α) : Selection α := ofPred fun a => s.contains a && !t.contains a

/-- Whether every value of the first selection is in the second. -/
def subset (s t : Selection α) : Bool := s.members.all t.contains

/-- Whether nothing is selected. -/
def isEmpty (s : Selection α) : Bool := s.members.isEmpty

/-- The number of selected values. -/
def size (s : Selection α) : Nat := s.members.length

end Selection
end Narrative
