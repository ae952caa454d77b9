import Narrative.Proofs.Play.Indifference
import Narrative.Proofs.Script.Splitting

/-!
Ends of lines. The text of a line is the same whether a line feed ends it or a carriage return and a line feed, so all
that differs is where lines and entries stand (`Script.unplaced_withReturns`). Nothing else depends on places: neither
the modifiers of lines, nor the labels, nor the issues of the check, nor runs (`Script.Reordered.unplaced`,
`Script.check_unplaced`).
-/
namespace Narrative

/-- What a character becomes where every line feed follows a carriage return. -/
def Text.returned (c : Char) : List Char := if c = '\n' then ['\r', '\n'] else [c]

/-- The text with a carriage return before every line feed. -/
def Text.withReturns (source : String) : String := String.ofList (source.toList.flatMap Text.returned)

/-- The block without the places where its entries stand. -/
def Block.unplaced : Block → Block
  | .entries list => .entries (list.map Entry.unplaced)
  | .absent => .absent
  | .empty => .empty
  | .dividers count => .dividers count

/-- The line without the places where it and its entries stand in the source. -/
def Line.unplaced (line : Line) : Line := { line with span := ⟨0, 0⟩, block := line.block.unplaced }

def Script.unplaced (script : Script) : Script := { script with lines := script.lines.map Line.unplaced }

def Finding.unplaced (finding : Finding) : Finding := { finding with span := ⟨0, 0⟩ }

theorem Block.unplaced_shift (bytes : Nat) (block : Block) : (block.shift bytes).unplaced = block.unplaced := by
  cases block with
  | entries list =>
    rw [shift, unplaced, unplaced, List.map_map]
    rfl
  | _ => rfl

theorem Block.toList_unplaced (block : Block) : block.unplaced.toList = block.toList.map Entry.unplaced := by
  cases block <;> rfl

theorem Block.Reordered.unplaced (block : Block) : block.Reordered block.unplaced := by
  cases block with
  | entries list =>
    have twice : (list.map Entry.unplaced).map Entry.unplaced = list.map Entry.unplaced := by
      rw [List.map_map]
      rfl
    rw [Block.unplaced, Block.Reordered, twice]
  | _ => rfl

namespace Line

theorem Reordered.unplaced (line : Line) : line.Reordered line.unplaced :=
  ⟨rfl, rfl, Block.Reordered.unplaced line.block⟩

/-- The offset of a line is in its places and nowhere else. -/
theorem unplaced_ofText (index offset offset' : Nat) (text : List Char) :
    (ofText index offset text).unplaced = (ofText index offset' text).unplaced := by
  have moved : ∀ bytes, (ofText index bytes text).unplaced = (ofText index 0 text).unplaced := by
    intro bytes
    have shifted := ofText_shift 0 bytes index 0 text
    rw [Nat.add_zero, Nat.zero_add] at shifted
    rw [shifted, unplaced, shift, unplaced, Block.unplaced_shift]
    rfl
  rw [moved offset, moved offset']

theorem modifiers_unplaced (line : Line) : line.unplaced.modifiers = line.modifiers := by
  have content : line.unplaced.content = line.content := rfl
  have entries : line.unplaced.block.toList = line.block.toList.map Entry.unplaced := Block.toList_unplaced line.block
  simp only [modifiers, content, entries, List.filterMap_map, Function.comp_def, Modifier.ofEntry_unplaced]

theorem blockIssues_unplaced (line : Line) : line.unplaced.blockIssues = line.blockIssues := by
  have conflicts : line.unplaced.modifierIssues = line.modifierIssues := by
    have interrupt : line.unplaced.hasInterrupt = line.hasInterrupt := (Reordered.unplaced line).hasInterrupt
    have same := modifiers_unplaced line
    simp only [modifierIssues, same, interrupt]
    rfl
  have content : line.unplaced.content = line.content := rfl
  have block : line.unplaced.block = line.block.unplaced := rfl
  unfold blockIssues
  rw [block, content, conflicts]
  cases line.block with
  | entries list =>
    have entries : entryIssues (list.map Entry.unplaced) = entryIssues list := by
      simp only [entryIssues, List.filterMap_map, Function.comp_def, Modifier.ofEntry_unplaced]
    have names : (list.map Entry.unplaced).map Entry.name = list.map Entry.name := by
      rw [List.map_map]
      rfl
    simp only [Block.unplaced, entries, names]
  | _ => rfl

theorem issues_unplaced (labels : LabelTable) (size : Nat) (used : List String) (line : Line) :
    line.unplaced.issues labels size used = line.issues labels size used := by
  have content : line.unplaced.content = line.content := rfl
  have directive : line.unplaced.directiveIssues labels size = line.directiveIssues labels size := by
    simp only [directiveIssues, soundDirectiveIssues, content, (Reordered.unplaced line).hasFlagGate]
  rw [issues, issues, directive, blockIssues_unplaced]
  rfl

end Line

namespace Script

@[simp] theorem lines_unplaced (script : Script) : script.unplaced.lines = script.lines.map Line.unplaced := rfl

theorem Reordered.unplaced (script : Script) : script.Reordered script.unplaced := by
  rw [Script.Reordered, lines_unplaced, List.forall₂_map_right_iff]
  exact List.forall₂_same.mpr fun line _ => Line.Reordered.unplaced line

/-- Without places the check finds the same, in the same order. -/
theorem check_unplaced (policy : Policy) (script : Script) :
    script.unplaced.check policy = (script.check policy).map Finding.unplaced := by
  have same := Reordered.unplaced script
  rw [check, check, same.labels, same.size, same.used, lines_unplaced, List.flatMap_map, List.map_flatMap]
  refine List.flatMap_congr fun line _ => ?_
  rw [Line.issues_unplaced, List.map_map]
  rfl

theorem accepted_unplaced (policy : Policy) (script : Script) :
    script.unplaced.accepted policy = script.accepted policy :=
  ((Reordered.unplaced script).accepted policy).symm

end Script

namespace Script

/-- The lines with their ends are the lines of the text before, each with its end. -/
theorem chunks_flatMap_returned (text : List Char) :
    chunks (text.flatMap Text.returned) = (chunks text).map (·.flatMap Text.returned) := by
  induction text with
  | nil => rfl
  | cons c rest ih =>
    by_cases feed : c = '\n'
    · have written : (c :: rest).flatMap Text.returned = '\r' :: '\n' :: rest.flatMap Text.returned := by
        rw [feed]
        rfl
      have ended : chunks ('\n' :: rest.flatMap Text.returned) = ['\n'] :: chunks (rest.flatMap Text.returned) := rfl
      rw [written, chunks, if_neg (by decide), ended, ih, chunks, if_pos (by rw [feed]; rfl)]
      rfl
    · have written : (c :: rest).flatMap Text.returned = c :: rest.flatMap Text.returned := by
        rw [List.flatMap_cons, Text.returned, if_neg feed]
        rfl
      rw [written, chunks, chunks, if_neg (by simpa using feed), if_neg (by simpa using feed), ih]
      cases chunks rest with
      | nil => simp [Text.returned, feed]
      | cons chunk more => simp [Text.returned, feed]

theorem withoutEnd_flatMap_returned {text chunk : List Char} (member : chunk ∈ chunks text) :
    withoutEnd (chunk.flatMap Text.returned) = withoutEnd chunk := by
  obtain ⟨body, free, ended⟩ := exists_body_of_mem_chunks member
  have kept : body.flatMap Text.returned = body := by
    have each : ∀ c ∈ body, Text.returned c = [c] := by
      intro c inside
      rw [Text.returned, if_neg]
      rintro rfl
      exact free inside
    rw [List.flatMap_congr each, List.flatMap_singleton']
  rcases ended with rfl | rfl
  · rw [kept]
  · have written : (body ++ ['\n']).flatMap Text.returned = body ++ ['\r'] ++ ['\n'] := by
      rw [List.flatMap_append, kept, List.append_assoc]
      rfl
    have free' : '\n' ∉ body ++ ['\r'] := by simpa using free
    -- The line feed goes first on either side, and then the carriage return before it with any others.
    rw [written, withoutEnd_append_feed, withoutEnd_append_feed, withoutEnd_of_free free',
      List.rdropWhile_concat_pos _ _ _ rfl, withoutEnd_of_free free]

theorem map_unplaced_linesFrom (index offset offset' : Nat) {chunks : List (List Char)}
    {written : List Char → List Char} (same : ∀ chunk ∈ chunks, withoutEnd (written chunk) = withoutEnd chunk) :
    (linesFrom index offset (chunks.map written)).map Line.unplaced =
      (linesFrom index offset' chunks).map Line.unplaced := by
  induction chunks generalizing index offset offset' with
  | nil => rfl
  | cons chunk rest ih =>
    have later := ih (index + 1) (offset + Text.byteLength (written chunk)) (offset' + Text.byteLength chunk)
      fun other member => same other (List.mem_cons_of_mem chunk member)
    rw [List.map_cons, linesFrom, linesFrom, List.map_cons, List.map_cons, later, same chunk (List.mem_cons_self ..),
      Line.unplaced_ofText index offset offset']

theorem unplaced_withReturns (name source : String) :
    (parse name (Text.withReturns source)).unplaced = (parse name source).unplaced := by
  have lines := map_unplaced_linesFrom 0 0 0 fun chunk (member : chunk ∈ chunks source.toList) =>
    withoutEnd_flatMap_returned member
  rw [← chunks_flatMap_returned] at lines
  simp only [unplaced, parse, Text.withReturns, String.toList_ofList, lines]

/-- Scripts that differ in places alone have the same modifiers and labels, are judged the same but for the places of
    findings, and run the same. -/
theorem same_of_unplaced {script other : Script} (same : other.unplaced = script.unplaced) :
    other.lines.map Line.modifiers = script.lines.map Line.modifiers ∧ other.labels = script.labels ∧
    (∀ policy, (other.check policy).map Finding.unplaced = (script.check policy).map Finding.unplaced ∧
      other.accepted policy = script.accepted policy) ∧
    ∀ {σ : Type} [Generator σ] settings ctx start (state : Playback σ),
      other.run settings ctx start state = script.run settings ctx start state := by
  have here := Reordered.unplaced script
  have there := Reordered.unplaced other
  refine ⟨?_, ?_, ?_, ?_⟩
  · have read : ∀ script : Script, script.unplaced.lines.map Line.modifiers = script.lines.map Line.modifiers := by
      intro script
      rw [lines_unplaced, List.map_map]
      exact List.map_congr_left fun line _ => Line.modifiers_unplaced line
    rw [← read other, same, read script]
  · rw [← there.labels, same, here.labels]
  · intro policy
    rw [← check_unplaced, ← check_unplaced, ← accepted_unplaced policy other, same, accepted_unplaced]
    exact ⟨rfl, rfl⟩
  · intro σ _ settings ctx start state
    rw [there.run, same, here.run]

/-- With carriage returns before its line feeds a source writes the same script, but for where its lines and entries
    stand: the check finds the same in the same order, and every run is the same. -/
theorem parse_withReturns (name source : String) :
    (parse name (Text.withReturns source)).lines.map Line.unplaced = (parse name source).lines.map Line.unplaced ∧
    (parse name (Text.withReturns source)).lines.map Line.modifiers = (parse name source).lines.map Line.modifiers ∧
    (parse name (Text.withReturns source)).labels = (parse name source).labels ∧
    (∀ policy, ((parse name (Text.withReturns source)).check policy).map Finding.unplaced =
        ((parse name source).check policy).map Finding.unplaced ∧
      (parse name (Text.withReturns source)).accepted policy = (parse name source).accepted policy) ∧
    ∀ {σ : Type} [Generator σ] settings ctx start (state : Playback σ),
      (parse name (Text.withReturns source)).run settings ctx start state =
        (parse name source).run settings ctx start state := by
  have same := unplaced_withReturns name source
  refine ⟨?_, same_of_unplaced same⟩
  rw [← lines_unplaced, ← lines_unplaced, same]

example : ((parse "s" (Text.withReturns "label é\nCold: no /// (ß")).check {}).map (·.span) ≠
    ((parse "s" "label é\nCold: no /// (ß").check {}).map (·.span) := by
  decide +kernel

end Script
end Narrative
