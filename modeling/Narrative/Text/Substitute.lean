/-!
Replacing every occurrence of a pattern, from left to right and without overlap.
-/
namespace Narrative.Text

/-- Replaces `pattern` by `value` after passing over the first `skip` characters, which belong to an
occurrence that has been replaced. -/
def substituteFrom (pattern value : List Char) : Nat → List Char → List Char
  | _, [] => []
  | skip + 1, _ :: rest => substituteFrom pattern value skip rest
  | 0, c :: rest =>
    if pattern.isPrefixOf (c :: rest) then
      value ++ substituteFrom pattern value (pattern.length - 1) rest
    else c :: substituteFrom pattern value 0 rest

/-- The text with each occurrence of a non-empty `pattern` replaced by `value`; what is put in is not
looked at again. -/
def substitute (pattern value text : String) : String :=
  String.ofList (substituteFrom pattern.toList value.toList 0 text.toList)

end Narrative.Text
