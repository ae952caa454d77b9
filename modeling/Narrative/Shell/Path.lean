import Narrative.Text.Fields

/-!
Paths as text. Steps are separated by slashes, and a path that begins with a slash starts at the root.
-/
namespace Narrative.Path

/-- Whether a path starts at the root. -/
def isAbsolute (path : String) : Bool := path.startsWith "/"

/-- The path that `next` is when read from `base`. -/
def join (base next : String) : String :=
  if isAbsolute next || base.isEmpty then next
  else if base.endsWith "/" then base ++ next
  else base ++ "/" ++ next

/-- The steps of a path. -/
def steps (path : String) : List String := (path.toList.splitOn '/').map String.ofList

/-- Whether the steps of one path come no later than those of another: the first step that differs decides,
and a path comes before those that go on from it. -/
def notAfter : List String → List String → Bool
  | [], _ => true
  | _ :: _, [] => false
  | a :: as, b :: bs => if a == b then notAfter as bs else decide (a < b)

/-- What follows the last dot of a name; a dot in front of the whole name does not count. -/
def extension? (name : String) : Option String :=
  match Text.cut (· == '.') name.toList.reverse with
  | (_, none) => none
  | (after, some before) => if before.isEmpty then none else some (String.ofList after.reverse)

end Narrative.Path
