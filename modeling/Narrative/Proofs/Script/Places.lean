import Narrative.Proofs.Script.Grammar
import Narrative.Proofs.Script.Layout
import Narrative.Proofs.Script.Lines

/-!
Places in a script. The dividers cut a line into parts that hold no divider and that the dividers join to the line
again (`segments_free`, `placedFrom_covers`). The tokens of a block cover their characters in it, in order, with blanks
between them (`Token.laid_scanFrom`), and its entries cover their texts, with blanks and semicolons between them
(`Entry.laid_ofBlock`). Each line is a piece of the source (`Script.exists_place`). So an entry of a script covers the
text from its first to its last token in the source (`Script.entries_placed`), and this is what it keeps if it is
malformed (`Script.malformed_eq_slice`).
-/
namespace Narrative

/-- A token is written as its characters. -/
structure Lexeme.WrittenAs (start : Nat) (piece : List Char) (lexeme : Lexeme) : Prop where
  span : lexeme.span = ⟨start, start + Text.byteLength piece⟩
  solid : piece ≠ []
  chars : lexeme.token.chars = piece

/-- What stands between tokens. -/
def Token.blanks : List Char := [' ', '\t', '\r']

/-- What stands between entries. -/
def Entry.blanks : List Char := ';' :: Token.blanks

/-- No part of a line holds a divider. -/
theorem segments_free {line part : List Char} (member : part ∈ segments line) : ¬ divider <:+: part := by
  fun_induction segments line generalizing part with
  | case1 rest ih =>
    rcases List.mem_cons.mp member with rfl | later
    · simp [divider]
    · exact ih later
  | case2 c rest other ih =>
    have joined := joined_segments rest
    obtain ⟨first, more, shape⟩ := List.exists_cons_of_ne_nil (segments_ne_nil rest)
    rw [shape] at member ih joined
    rcases List.mem_cons.mp member with rfl | later
    · -- A divider at the very beginning would have been cut off.
      intro inside
      rcases List.infix_cons_iff.mp inside with begins | within
      · have front : first <+: rest := by
          rw [← joined]
          cases more <;> simp [List.intercalate]
        obtain ⟨tail, whole⟩ := begins.trans ((List.prefix_cons_inj c).mpr front)
        cases whole
        exact other _ rfl rfl
      · exact ih (List.mem_cons_self ..) within
    · exact ih (List.mem_cons_of_mem first later)
  | case3 =>
    rw [List.mem_singleton.mp member]
    simp [divider]

/-- The parts behind a divider stand where they are said to stand. -/
theorem placedFrom_covers {pos : Nat} {parts : List (List Char)} {part : List Char × Nat}
    (member : part ∈ placedFrom pos parts) :
    Span.Covers ⟨part.2, part.2 + Text.byteLength part.1⟩ pos (List.intercalate divider parts) part.1 := by
  induction parts generalizing pos with
  | nil => cases member
  | cons first rest ih =>
    rcases List.mem_cons.mp member with rfl | later
    · cases rest with
      | nil => exact ⟨[], [], by simp [List.intercalate], by simp [Text.byteLength]⟩
      | cons next others =>
        refine ⟨[], divider ++ List.intercalate divider (next :: others), ?_, by simp [Text.byteLength]⟩
        rw [List.intercalate_cons_cons]
        simp
    · cases rest with
      | nil => cases later
      | cons next others =>
        have start : pos + Text.byteLength first + 3 = pos + Text.byteLength (first ++ divider) := by
          rw [Text.byteLength_append, Nat.add_assoc]
          rfl
        rw [start] at later
        rw [List.intercalate_cons_cons]
        exact (ih later).behind

theorem fst_placedFrom (pos : Nat) (parts : List (List Char)) : (placedFrom pos parts).map (·.1) = parts := by
  induction parts generalizing pos with
  | nil => rfl
  | cons part rest ih => rw [placedFrom, List.map_cons, ih]

namespace Token

section
variable {pos : Nat} {pending : List Char} (before : Text.byteLength pending ≤ pos)
include before

theorem stop_of_pending : pos - Text.byteLength pending + Text.byteLength pending.reverse = pos := by
  rw [Text.byteLength_reverse, Nat.sub_add_cancel before]

/-- The word that is put out is what was pending. -/
theorem laid_pendingWord :
    Laid blanks Lexeme.WrittenAs (pos - Text.byteLength pending) (pendingWord pos pending) pending.reverse := by
  by_cases none : pending = []
  · subst none
    exact .nil (List.nil_subset _)
  · have put : pendingWord pos pending = [⟨.word pending.reverse, pos - Text.byteLength pending, pos⟩] := by
      simp [pendingWord, none]
    have written : Lexeme.WrittenAs (pos - Text.byteLength pending) pending.reverse
        ⟨.word pending.reverse, pos - Text.byteLength pending, pos⟩ :=
      ⟨by rw [stop_of_pending before], by simpa using none, rfl⟩
    simpa [put] using Laid.put written (.nil (List.nil_subset _))

end

/-- The tokens cover their characters, and only blanks are left between them. -/
theorem laid_scanFrom (pos : Nat) (pending text : List Char) (before : Text.byteLength pending ≤ pos) :
    Laid blanks Lexeme.WrittenAs (pos - Text.byteLength pending) (scanFrom pos pending text)
      (pending.reverse ++ text) := by
  induction pos, pending, text using scanFrom_induction with
  | nil pos pending =>
    rw [List.append_nil]
    exact laid_pendingWord before
  | gap pos pending c rest gap ih =>
    have blank : [c] ⊆ blanks := by simpa [blanks] using isGap_iff.mp gap
    rw [scanFrom_gap gap]
    refine (laid_pendingWord before).append ?_
    rw [stop_of_pending before]
    exact .skip blank (ih (Nat.zero_le _))
  | mark pos pending c token rest mark ih =>
    obtain ⟨_, chars, _⟩ := mark_of_ofChar? mark
    have written : Lexeme.WrittenAs pos [c] ⟨token, pos, pos + c.utf8Size⟩ := ⟨rfl, List.cons_ne_nil c [], chars⟩
    rw [scanFrom_mark mark]
    refine (laid_pendingWord before).append ?_
    rw [stop_of_pending before]
    exact .put written (ih (Nat.zero_le _))
  | letter pos pending c rest letter ih =>
    have joined : Text.byteLength (c :: pending) ≤ pos + c.utf8Size := by
      rw [Text.byteLength]
      omega
    have start : pos + c.utf8Size - Text.byteLength (c :: pending) = pos - Text.byteLength pending := by
      rw [Text.byteLength]
      omega
    rw [scanFrom_letter letter]
    simpa [start] using ih joined

theorem laid_scan (base : Nat) (block : List Char) : Laid blanks Lexeme.WrittenAs base (scan base block) block :=
  laid_scanFrom base [] block (Nat.zero_le base)

end Token

namespace Entry

theorem subset_blanks {gap : List Char} (blank : ∀ c ∈ gap, Token.isGap c = true) : gap ⊆ blanks := by
  intro c inside
  exact List.mem_cons_of_mem ';' (Token.isGap_iff.mp (blank c inside))

theorem laid_segment (base : Nat) {segment : List Char} (free : ';' ∉ segment) :
    Laid blanks WrittenAs base (ofBlock base segment) segment := by
  rcases ofBlock_segment base free with ⟨blank, none⟩ | ⟨lead, tail, entry, shape, blank, blank', single, written⟩
  · rw [none]
    exact .nil (subset_blanks blank)
  · have laid : Laid blanks WrittenAs base [entry] (lead ++ Token.trim segment ++ tail) :=
      .cons (subset_blanks blank) written (.nil (subset_blanks blank'))
    rwa [single, shape]

/-- The entries of a block cover their texts, and only blanks and semicolons are left between them. -/
theorem laid_ofBlock (base : Nat) (block : List Char) : Laid blanks WrittenAs base (ofBlock base block) block := by
  induction block using Text.splitOnP_induction (· == ';') generalizing base with
  | part segment plain => exact laid_segment base fun inside => by simpa using plain _ inside
  | more segment semicolon rest plain stop ih =>
    obtain rfl := beq_iff_eq.mp stop
    have mark : [';'] ⊆ blanks := by simp [blanks]
    rw [ofBlock_append]
    refine (laid_segment base fun inside => by simpa using plain _ inside).append ?_
    exact .skip mark (ih _)

end Entry

theorem covers_of_splitDividers (text : List Char) :
    List.intercalate divider ((splitDividers text).1 :: (splitDividers text).2.map (·.1)) = text ∧
    (∀ part ∈ (splitDividers text).1 :: (splitDividers text).2.map (·.1), ¬ divider <:+: part) ∧
    ∀ block ∈ (splitDividers text).2,
      Span.Covers ⟨block.2, block.2 + Text.byteLength block.1⟩ 0 text block.1 := by
  have joined := joined_segments text
  obtain ⟨body, blocks, parts⟩ := List.exists_cons_of_ne_nil (segments_ne_nil text)
  have split : splitDividers text = (body, placedFrom (Text.byteLength body + 3) blocks) := by
    rw [splitDividers, parts]
  rw [split, fst_placedFrom, ← parts]
  refine ⟨joined, fun part member => segments_free member, fun block member => ?_⟩
  -- The body is a part as well, and the first of all.
  have behind : block ∈ placedFrom 0 (body :: blocks) := by
    rw [placedFrom, Nat.zero_add]
    exact List.mem_cons_of_mem _ member
  rw [← joined, parts]
  exact placedFrom_covers behind

theorem Script.withoutEnd_eq (chunk : List Char) :
    withoutEnd chunk = (chunk.rdropWhile (· == '\n')).rdropWhile (· == '\r') := by
  simp [withoutEnd, List.rdropWhile]

/-- A line is read from a piece of the source, where that piece stands. -/
theorem Script.exists_place {index : Nat} {before : List Char} {chunks : List (List Char)} {line : Line}
    (member : line ∈ linesFrom index (Text.byteLength before) chunks) : ∃ place lead text tail,
      before ++ chunks.flatten = lead ++ text ++ tail ∧ line = Line.ofText place (Text.byteLength lead) text := by
  induction chunks generalizing index before with
  | nil => cases member
  | cons chunk rest ih =>
    rcases List.mem_cons.mp member with rfl | later
    · obtain ⟨tail, split⟩ : ∃ tail, chunk = withoutEnd chunk ++ tail := by
        obtain ⟨feed, first⟩ := List.rdropWhile_prefix (p := (· == '\n')) chunk
        obtain ⟨returns, second⟩ :=
          List.rdropWhile_prefix (p := (· == '\r')) (chunk.rdropWhile (· == '\n'))
        refine ⟨returns ++ feed, ?_⟩
        rw [withoutEnd_eq, ← List.append_assoc]
        exact (first.symm.trans (congrArg (· ++ feed) second.symm))
      refine ⟨index, before, withoutEnd chunk, tail ++ rest.flatten, ?_, rfl⟩
      rw [List.flatten_cons, List.append_assoc, ← List.append_assoc (withoutEnd chunk), ← split]
    · rw [← Text.byteLength_append] at later
      obtain ⟨place, lead, text, tail, source, same⟩ := ih later
      refine ⟨place, lead, text, tail, ?_, same⟩
      rw [← source, List.flatten_cons, List.append_assoc]

/-- A line with entries has one divider, and the entries are those of what follows it, read where that stands. -/
theorem Line.exists_block {place offset : Nat} {text : List Char}
    (written : (ofText place offset text).block.toList ≠ []) :
    ∃ body block, text = body ++ divider ++ block ∧
      splitDividers text = (body, [(block, Text.byteLength (body ++ divider))]) ∧
      (ofText place offset text).block.toList =
        Entry.ofBlock (offset + Text.byteLength (body ++ divider)) block := by
  have joined := joined_segments text
  obtain ⟨body, blocks, parts⟩ := List.exists_cons_of_ne_nil (segments_ne_nil text)
  have split : splitDividers text = (body, placedFrom (Text.byteLength body + 3) blocks) := by
    rw [splitDividers, parts]
  have made : (ofText place offset text).block =
      Block.ofParts offset (placedFrom (Text.byteLength body + 3) blocks) := by
    simp only [ofText, split]
  have length : Text.byteLength (body ++ divider) = Text.byteLength body + 3 := Text.byteLength_append ..
  rw [made] at written ⊢
  rw [parts] at joined
  cases blocks with
  | nil => exact absurd rfl written
  | cons block more =>
    cases more with
    | nil =>
      refine ⟨body, block, ?_, ?_, ?_⟩
      · rw [← joined]
        simp [List.intercalate]
      · rw [split, length]
        rfl
      · rw [length, placedFrom, placedFrom, Block.ofParts]
        cases entries : Entry.ofBlock (offset + (Text.byteLength body + 3)) block with
        | nil => rfl
        | cons first rest => rfl
    | cons next others => exact absurd rfl written

theorem Script.exists_text_of_entry {name source : String} {line : Line} {entry : Entry}
    (member : line ∈ (parse name source).lines) (inside : entry ∈ line.block.toList) : ∃ text,
      entry.span.Covers 0 source.toList text ∧ entry.WrittenAs entry.span.start text := by
  have first : line ∈ linesFrom 0 (Text.byteLength []) (chunks source.toList) := member
  obtain ⟨place, lead, written, tail, whole, rfl⟩ := exists_place first
  obtain ⟨body, block, rfl, _, made⟩ := Line.exists_block (List.ne_nil_of_mem inside)
  rw [made] at inside
  obtain ⟨text, covers, written⟩ := (Entry.laid_ofBlock _ block).covers (fun _ _ _ made => made.span) inside
  refine ⟨text, ?_, written⟩
  rw [← Text.byteLength_append, ← Nat.zero_add (Text.byteLength _)] at covers
  rw [List.nil_append, flatten_chunks] at whole
  rw [whole, ← List.append_assoc]
  exact covers.behind.in_front

/-- The text that a malformed entry keeps is cut out of the whole source. -/
theorem Script.malformed_eq_slice {name source text : String} {line : Line} {entry : Entry}
    (member : line ∈ (parse name source).lines) (inside : entry ∈ line.block.toList)
    (malformed : entry.args = .malformed text) :
    text = String.ofList (Entry.slice 0 entry.span.start entry.span.stop source.toList) := by
  obtain ⟨piece, covers, written⟩ := exists_text_of_entry member inside
  obtain ⟨rfl, _⟩ := (written.means.malformed_iff text).mp malformed
  rw [covers.slice_eq]

/-- The dividers of a line, the tokens of a block and the entries of a line stand exactly where they are said to
    stand. What an entry keeps is the text that its span covers in the source, from its first to its last token. -/
theorem Script.entries_placed :
    (∀ text,
      List.intercalate divider ((splitDividers text).1 :: (splitDividers text).2.map (·.1)) = text ∧
      (∀ part ∈ (splitDividers text).1 :: (splitDividers text).2.map (·.1), ¬ divider <:+: part) ∧
      ∀ block ∈ (splitDividers text).2,
        Span.Covers ⟨block.2, block.2 + Text.byteLength block.1⟩ 0 text block.1) ∧
    (∀ base block,
      Laid Token.blanks Lexeme.WrittenAs base (Token.scan base block) block ∧
      ((Token.scan base block).Pairwise fun lexeme later => lexeme.span.stop ≤ later.span.start) ∧
      ∀ lexeme ∈ Token.scan base block,
        lexeme.span.start < lexeme.span.stop ∧ lexeme.span.Covers base block lexeme.token.chars) ∧
    ∀ name source, ∀ line ∈ (parse name source).lines, line.block.toList ≠ [] → ∃ body block,
      splitDividers line.raw.toList = (body, [(block, Text.byteLength (body ++ divider))]) ∧
      Laid Entry.blanks Entry.WrittenAs (line.span.start + Text.byteLength (body ++ divider)) line.block.toList block ∧
      (line.block.toList.Pairwise fun entry later => entry.span.stop ≤ later.span.start) ∧
      ∀ entry ∈ line.block.toList,
        line.span.start + Text.byteLength (body ++ divider) ≤ entry.span.start ∧ entry.span.stop ≤ line.span.stop ∧
        ∃ text, entry.span.Covers 0 source.toList text ∧ entry.WrittenAs entry.span.start text ∧
          entry.Means ((Token.scan entry.span.start text).map Lexeme.token) (String.ofList text) := by
  refine ⟨covers_of_splitDividers, fun base block => ?_, fun name source line member some_entry => ?_⟩
  · have laid := Token.laid_scan base block
    refine ⟨laid, laid.pairwise fun _ _ _ written => written.span, fun lexeme inside => ?_⟩
    obtain ⟨piece, covers, written⟩ := laid.covers (fun _ _ _ written => written.span) inside
    have length := Text.byteLength_pos written.solid
    rw [written.chars]
    refine ⟨?_, covers⟩
    rw [written.span]
    dsimp only
    omega
  · obtain ⟨place, start, text, rfl⟩ := exists_ofText_of_parse member
    obtain ⟨body, block, shape, split, made⟩ := Line.exists_block some_entry
    have laid := Entry.laid_ofBlock (start + Text.byteLength (body ++ divider)) block
    have raw : (Line.ofText place start text).raw.toList = text := String.toList_ofList
    refine ⟨body, block, by rw [raw, split], by rw [made]; exact laid, ?_, fun entry inside => ?_⟩
    · rw [made]
      exact laid.pairwise fun _ _ _ written => written.span
    · obtain ⟨piece, covers, written⟩ := exists_text_of_entry member inside
      rw [made] at inside
      obtain ⟨low, high⟩ := laid.bounds (fun _ _ _ written => written.span) inside
      refine ⟨low, ?_, piece, covers, written, written.means⟩
      have stop : (Line.ofText place start text).span.stop =
          start + Text.byteLength (body ++ divider) + Text.byteLength block := by
        rw [Nat.add_assoc, ← Text.byteLength_append, ← shape]
        rfl
      rwa [stop]

/-- The second entry of a line, behind letters of two bytes. -/
theorem Script.entries_placed_of_umlauts :
    ∃ line ∈ (parse "s" "é\nß: no /// A ;\tü(x y);").lines, line.block.toList ≠ [] ∧
      ∃ entry ∈ line.block.toList, entry.span.stop ≤ line.span.stop ∧
        entry.span.Covers 0 "é\nß: no /// A ;\tü(x y);".toList "ü(x y)".toList ∧
        entry.WrittenAs 18 "ü(x y)".toList := by
  have facts : (∃ line ∈ (parse "s" "é\nß: no /// A ;\tü(x y);").lines,
      line.block.toList ≠ [] ∧ ∃ entry ∈ line.block.toList, entry.span = ⟨18, 25⟩) ∧
      Entry.slice 0 18 25 "é\nß: no /// A ;\tü(x y);".toList = "ü(x y)".toList := by
    decide +kernel
  obtain ⟨⟨line, member, some_entry, entry, inside, place⟩, cut⟩ := facts
  obtain ⟨body, block, _, _, _, entries⟩ := entries_placed.2.2 _ _ line member some_entry
  obtain ⟨_, within, text, covers, written, _⟩ := entries entry inside
  have same : text = "ü(x y)".toList := by
    rw [← covers.slice_eq, place, cut]
  rw [same] at covers written
  rw [place] at written
  exact ⟨line, member, some_entry, entry, inside, within, covers, written⟩

end Narrative
