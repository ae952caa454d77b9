import Narrative.Proofs.Script.Places

/-!
Scripts written one after the other. If the first text is empty or ends with a line feed, the whole has the lines of
the first and then those of the second, which are further down by the lines and the bytes of the first and otherwise
the same, and its labels are those of the first and then those of the second (`Script.parse_append`).
-/
namespace Narrative

/-- The entry further down in the source. -/
def Entry.shift (bytes : Nat) (entry : Entry) : Entry := { entry with span := entry.span.shift bytes }

/-- The block further down in the source. -/
def Block.shift (bytes : Nat) : Block → Block
  | .entries list => .entries (list.map (Entry.shift bytes))
  | .absent => .absent
  | .empty => .empty
  | .dividers count => .dividers count

/-- The line further down in the source. -/
def Line.shift (lines bytes : Nat) (line : Line) : Line :=
  { line with index := line.index + lines, span := line.span.shift bytes, block := line.block.shift bytes }

namespace Entry

/-- The arguments of an entry are in its tokens, wherever these stand. -/
theorem argsAfterName_congr (source : String) {rest rest' : List Lexeme}
    (same : rest.map Lexeme.token = rest'.map Lexeme.token) :
    argsAfterName source rest = argsAfterName source rest' := by
  have list : ∀ values, argsAfterName source rest = .list values ↔ argsAfterName source rest' = .list values := by
    intro values
    rw [argsAfterName_list_iff, argsAfterName_list_iff, same]
  have absent : argsAfterName source rest = .absent ↔ argsAfterName source rest' = .absent := by
    rw [argsAfterName_absent_iff, argsAfterName_absent_iff, ← List.map_eq_nil_iff (f := Lexeme.token), same,
      List.map_eq_nil_iff]
  rcases argsAfterName_outcomes source rest with none | ⟨values, listed⟩ | malformed
  · rw [none, absent.mp none]
  · rw [listed, (list values).mp listed]
  · rcases argsAfterName_outcomes source rest' with none | ⟨values, listed⟩ | malformed'
    · rw [none, absent.mpr none]
    · rw [listed, (list values).mpr listed]
    · rw [malformed, malformed']

theorem ofLexemes_shift (n base : Nat) (block : List Char) (first : Lexeme) (rest : List Lexeme) :
    ofLexemes (base + n) block (first.shift n) (rest.map (Lexeme.shift n)) =
      (ofLexemes base block first rest).shift n := by
  have last : (rest.map (Lexeme.shift n)).getLastD (first.shift n) = (rest.getLastD first).shift n :=
    List.getLastD_map ..
  have source : slice (base + n) (first.span.start + n) ((rest.getLastD first).span.stop + n) block =
      slice base first.span.start (rest.getLastD first).span.stop block := slice_shift ..
  have args : ∀ source, argsAfterName source (rest.map (Lexeme.shift n)) = argsAfterName source rest := by
    intro source
    refine argsAfterName_congr source ?_
    rw [List.map_map]
    rfl
  simp only [ofLexemes, last, args]
  simp only [Lexeme.shift, Span.shift, source]
  cases first.token with
  | word name => rfl
  | _ => rfl

theorem ofBlock_shift (n base : Nat) (block : List Char) :
    ofBlock (base + n) block = (ofBlock base block).map (shift n) := by
  have scanned : Token.scan (base + n) block = (Token.scan base block).map (Lexeme.shift n) :=
    Token.scanFrom_shift n (Nat.zero_le base)
  have parts : ((Token.scan base block).map (Lexeme.shift n)).splitOnP (·.token == .semicolon) =
      ((Token.scan base block).splitOnP (·.token == .semicolon)).map (List.map (Lexeme.shift n)) :=
    Text.splitOnP_map (Lexeme.shift n) (·.token == .semicolon) (Token.scan base block)
  rw [ofBlock, scanned, parts, List.filterMap_map, ofBlock, List.map_filterMap]
  refine List.filterMap_congr fun group _ => ?_
  cases group with
  | nil => rfl
  | cons first rest => exact congrArg some (ofLexemes_shift n base block first rest)

end Entry

theorem Modifier.ofEntry_shift (bytes : Nat) (entry : Entry) : ofEntry (entry.shift bytes) = ofEntry entry := by
  unfold ofEntry
  rfl

theorem Block.ofParts_shift (n offset : Nat) (parts : List (List Char × Nat)) :
    ofParts (offset + n) parts = (ofParts offset parts).shift n := by
  cases parts with
  | nil => rfl
  | cons part more =>
    cases more with
    | nil =>
      have moved : offset + n + part.2 = offset + part.2 + n := by omega
      rw [ofParts, ofParts, moved, Entry.ofBlock_shift]
      cases Entry.ofBlock (offset + part.2) part.1 with
      | nil => rfl
      | cons entry rest => rfl
    | cons next rest => rfl

namespace Line

theorem ofText_shift (lines bytes index offset : Nat) (text : List Char) :
    ofText (index + lines) (offset + bytes) text = (ofText index offset text).shift lines bytes := by
  have span : offset + bytes + Text.byteLength text = offset + Text.byteLength text + bytes := by omega
  simp only [ofText, shift, Span.shift, span, Block.ofParts_shift]

@[simp] theorem definition?_shift (lines bytes : Nat) (line : Line) :
    (line.shift lines bytes).definition? = line.definition? := rfl

/-- What a line evaluates does not depend on where it stands. -/
@[simp] theorem modifiers_shift (lines bytes : Nat) (line : Line) :
    (line.shift lines bytes).modifiers = line.modifiers := by
  have content : (line.shift lines bytes).content = line.content := rfl
  have entries : (line.shift lines bytes).block.toList = line.block.toList.map (Entry.shift bytes) := by
    cases block : line.block <;> simp [shift, block, Block.shift, Block.toList]
  simp only [modifiers, content, entries, List.filterMap_map, Function.comp_def, Modifier.ofEntry_shift]

end Line

namespace Script

theorem chunks_ne_nil {text : List Char} (some_char : text ≠ []) : chunks text ≠ [] := by
  obtain ⟨c, rest, rfl⟩ := List.exists_cons_of_ne_nil some_char
  rw [chunks]
  split
  · exact List.cons_ne_nil _ _
  · split <;> exact List.cons_ne_nil _ _

theorem chunks_append {first : List Char} (ends : first = [] ∨ first.getLast? = some '\n') (second : List Char) :
    chunks (first ++ second) = chunks first ++ chunks second := by
  induction first with
  | nil => rfl
  | cons c rest ih =>
    have last := ends.resolve_left (List.cons_ne_nil c rest)
    by_cases feed : c = '\n'
    · have later : rest = [] ∨ rest.getLast? = some '\n' := by
        by_cases none : rest = []
        · exact .inl none
        · rw [List.getLast?_cons_of_ne_nil none] at last
          exact .inr last
      rw [List.cons_append, chunks, chunks, if_pos (by simp [feed]), if_pos (by simp [feed]), ih later,
        List.cons_append]
    · -- The text does not end here, so the line that goes on is begun in the first text.
      have some_char : rest ≠ [] := by
        rintro rfl
        exact feed (Option.some.inj last)
      rw [List.getLast?_cons_of_ne_nil some_char] at last
      rw [List.cons_append, chunks, chunks, if_neg (by simp [feed]), if_neg (by simp [feed]), ih (.inr last)]
      obtain ⟨chunk, more, shape⟩ := List.exists_cons_of_ne_nil (chunks_ne_nil some_char)
      rw [shape]
      rfl

theorem length_linesFrom (index offset : Nat) (chunks : List (List Char)) :
    (linesFrom index offset chunks).length = chunks.length := by
  induction chunks generalizing index offset with
  | nil => rfl
  | cons chunk rest ih => rw [linesFrom, List.length_cons, List.length_cons, ih]

theorem linesFrom_append (index offset : Nat) (first second : List (List Char)) :
    linesFrom index offset (first ++ second) = linesFrom index offset first ++
      linesFrom (index + first.length) (offset + Text.byteLength first.flatten) second := by
  induction first generalizing index offset with
  | nil => rfl
  | cons chunk rest ih =>
    have places : index + 1 + rest.length = index + (chunk :: rest).length := by
      rw [List.length_cons]
      omega
    rw [List.cons_append, linesFrom, ih, linesFrom, List.cons_append, places, List.flatten_cons,
      Text.byteLength_append, Nat.add_assoc]

theorem linesFrom_shift (lines bytes index offset : Nat) (chunks : List (List Char)) :
    linesFrom (index + lines) (offset + bytes) chunks =
      (linesFrom index offset chunks).map (Line.shift lines bytes) := by
  induction chunks generalizing index offset with
  | nil => rfl
  | cons chunk rest ih =>
    have place : index + lines + 1 = index + 1 + lines := by omega
    have start : offset + bytes + Text.byteLength chunk = offset + Text.byteLength chunk + bytes := by omega
    rw [linesFrom, linesFrom, List.map_cons, Line.ofText_shift, place, start, ih]

theorem lines_append (name first second : String) (ends : first = "" ∨ first.toList.getLast? = some '\n') :
    (parse name (first ++ second)).lines = (parse name first).lines ++
      (parse name second).lines.map (Line.shift (parse name first).size (Text.byteLength first.toList)) := by
  have ends' : first.toList = [] ∨ first.toList.getLast? = some '\n' := by
    rw [String.toList_eq_nil_iff]
    exact ends
  have size : (parse name first).size = (chunks first.toList).length := length_linesFrom ..
  simp only [parse] at size ⊢
  rw [String.toList_append, chunks_append ends', linesFrom_append, flatten_chunks, size, linesFrom_shift]

end Script

namespace LabelTable

/-- A name belongs to its first definition. -/
theorem line?_foldl_define (table : LabelTable) (definitions : List Label) (name : String) :
    (definitions.foldl define table).line? name =
      (table.line? name).or ((definitions.find? (·.name == name)).map (·.line)) := by
  induction definitions generalizing table with
  | nil => simp
  | cons label rest ih =>
    rw [List.foldl_cons, ih]
    by_cases known : table.contains label.name = true
    · have same : (table.define label).line? name = table.line? name := by
        rw [define, if_pos known]
        rfl
      rw [same, List.find?_cons]
      split
      · rename_i here
        obtain ⟨line, found⟩ := contains_iff.mp known
        rw [← beq_iff_eq.mp here, found, Option.some_or, Option.some_or]
      · rfl
    · have added : (table.define label).line? name =
          (table.line? name).or (([label].find? (·.name == name)).map (·.line)) := by
        rw [define, if_neg known, line?, line?, List.find?_append, Option.map_or]
      rw [added, Option.or_assoc, ← Option.map_or, ← List.find?_append, List.singleton_append]

/-- A name is bound to the line of the first definition with this name. -/
theorem line?_of_definitions (definitions : List Label) (name : String) :
    (definitions.foldl define {}).line? name = (definitions.find? (·.name == name)).map (·.line) := by
  rw [line?_foldl_define]
  rfl

theorem line?_ofLines (lines : List Line) (name : String) :
    (ofLines lines).line? name = ((definitions lines).find? (·.name == name)).map (·.line) :=
  line?_of_definitions (definitions lines) name

theorem line?_append_shift (first second : List Line) (lines bytes : Nat) (name : String) :
    (ofLines (first ++ second.map (Line.shift lines bytes))).line? name =
      ((ofLines first).line? name).or (((ofLines second).line? name).map (· + lines)) := by
  have moved : definitions (second.map (Line.shift lines bytes)) =
      (definitions second).map fun label => { label with line := label.line + lines } := by
    rw [definitions, definitions, List.filterMap_map, List.map_filterMap]
    refine List.filterMap_congr fun line _ => ?_
    rw [Function.comp_apply, Line.definition?_shift, Option.map_map]
    rfl
  have both : definitions (first ++ second.map (Line.shift lines bytes)) = definitions first ++
      (definitions second).map fun label => { label with line := label.line + lines } := by
    rw [← moved]
    exact List.filterMap_append
  rw [line?_ofLines, line?_ofLines, line?_ofLines, both, List.find?_append, Option.map_or, List.find?_map,
    Option.map_map, Option.map_map]
  rfl

end LabelTable

/-- The parts of a source that is cut after a line feed are parsed by themselves. -/
theorem Script.parse_append (name first second : String)
    (ends : first = "" ∨ first.toList.getLast? = some '\n') :
    (parse name (first ++ second)).lines = (parse name first).lines ++
      (parse name second).lines.map (Line.shift (parse name first).size (Text.byteLength first.toList)) ∧
    (parse name (first ++ second)).lines.map Line.modifiers =
      (parse name first).lines.map Line.modifiers ++ (parse name second).lines.map Line.modifiers ∧
    (∀ line ∈ (parse name (first ++ second)).lines, ∀ entry ∈ line.block.toList, ∀ text,
      entry.args = .malformed text →
        text = String.ofList (Entry.slice 0 entry.span.start entry.span.stop (first ++ second).toList)) ∧
    ∀ label, (parse name (first ++ second)).labels.line? label = ((parse name first).labels.line? label).or
      (((parse name second).labels.line? label).map (· + (parse name first).size)) := by
  have lines := lines_append name first second ends
  refine ⟨lines, ?_, ?_, ?_⟩
  · rw [lines, List.map_append, List.map_map]
    exact congrArg (_ ++ ·) (List.map_congr_left fun line _ => Line.modifiers_shift _ _ line)
  · intro line member entry inside text malformed
    exact malformed_eq_slice member inside malformed
  · intro label
    rw [labels, lines]
    exact LabelTable.line?_append_shift ..

theorem Script.parse_append_of_scenes :
    "label é\r\nCold: no /// (ß\n".toList.getLast? = some '\n' ∧
    (parse "s" ("label é\r\nCold: no /// (ß\n" ++ "label é\nü /// a b; x(\r\nlabel end")).lines =
      (parse "s" "label é\r\nCold: no /// (ß\n").lines ++
        (parse "s" "label é\nü /// a b; x(\r\nlabel end").lines.map (Line.shift 2 27) ∧
    (parse "s" ("label é\r\nCold: no /// (ß\n" ++ "label é\nü /// a b; x(\r\nlabel end")).labels.line? "é" =
      some 0 := by
  have facts : "label é\r\nCold: no /// (ß\n".toList.getLast? = some '\n' ∧
      (parse "s" "label é\r\nCold: no /// (ß\n").size = 2 ∧
      Text.byteLength "label é\r\nCold: no /// (ß\n".toList = 27 ∧
      (parse "s" "label é\r\nCold: no /// (ß\n").labels.line? "é" = some 0 := by
    decide +kernel
  obtain ⟨feed, size, bytes, label⟩ := facts
  obtain ⟨lines, _, _, labels⟩ :=
    parse_append "s" "label é\r\nCold: no /// (ß\n" "label é\nü /// a b; x(\r\nlabel end" (.inr feed)
  rw [size, bytes] at lines
  refine ⟨feed, lines, ?_⟩
  rw [labels, label, Option.some_or]

end Narrative
