import Narrative.Proofs.Script.Tokens
import Narrative.Script.Line

/-!
Blocks piece by piece. The entries of a block are those of its parts between semicolons, one after the other, each
read where it stands (`Entry.ofBlock_append`). A part between semicolons has no entry if it is blank, and otherwise one,
which is written as the part without the blanks at its ends (`Entry.ofBlock_segment`).
-/
namespace Narrative

/-- An entry is written as a text without semicolons, whose tokens reach from its beginning to its end. -/
structure Entry.WrittenAs (start : Nat) (piece : List Char) (entry : Entry) : Prop where
  span : entry.span = ⟨start, start + Text.byteLength piece⟩
  solid : piece ≠ []
  free : ';' ∉ piece
  tokens : ∃ first rest, Token.scan start piece = first :: rest ∧ first.span.start = start ∧
    (rest.getLastD first).span.stop = start + Text.byteLength piece ∧ entry = .ofLexemes start piece first rest

namespace Entry

theorem slice_of_stop {pos start stop : Nat} (late : stop ≤ pos) (text : List Char) :
    slice pos start stop text = [] := by
  cases text with
  | nil => rfl
  | cons c rest => rw [slice, if_pos late]

theorem slice_skip {pos start stop : Nat} {before : List Char} (early : pos + Text.byteLength before ≤ start)
    (rest : List Char) :
    slice pos start stop (before ++ rest) = slice (pos + Text.byteLength before) start stop rest := by
  induction before generalizing pos with
  | nil => rfl
  | cons c more ih =>
    rw [Text.byteLength] at early ⊢
    have size := c.utf8Size_pos
    by_cases past : stop ≤ pos
    · rw [slice_of_stop past, slice_of_stop (by omega)]
    · rw [List.cons_append, slice, if_neg past, if_pos (by omega), ih (by omega), Nat.add_assoc]

theorem slice_take {pos start stop : Nat} {inside : List Char} (begun : start ≤ pos)
    (within : pos + Text.byteLength inside ≤ stop) (rest : List Char) :
    slice pos start stop (inside ++ rest) = inside ++ slice (pos + Text.byteLength inside) start stop rest := by
  induction inside generalizing pos with
  | nil => rfl
  | cons c more ih =>
    rw [Text.byteLength] at within ⊢
    have size := c.utf8Size_pos
    rw [List.cons_append, slice, if_neg (by omega), if_neg (by omega), ih (by omega) (by omega), Nat.add_assoc,
      List.cons_append]

/-- A piece of a text is cut out by its bytes. -/
theorem slice_piece (pos : Nat) (before inside after : List Char) :
    slice pos (pos + Text.byteLength before) (pos + Text.byteLength before + Text.byteLength inside)
      (before ++ inside ++ after) = inside := by
  rw [List.append_assoc, slice_skip (Nat.le_refl _), slice_take (Nat.le_refl _) (Nat.le_refl _),
    slice_of_stop (Nat.le_refl _), List.append_nil]

theorem slice_whole (pos : Nat) (text : List Char) : slice pos pos (pos + Text.byteLength text) text = text := by
  simpa [Text.byteLength] using slice_piece pos [] text []

theorem slice_append {pos start stop : Nat} {first : List Char} (within : stop ≤ pos + Text.byteLength first)
    (second : List Char) : slice pos start stop (first ++ second) = slice pos start stop first := by
  induction first generalizing pos with
  | nil =>
    have late : stop ≤ pos := within
    rw [List.nil_append, slice_of_stop late, slice_of_stop late]
  | cons c more ih =>
    rw [Text.byteLength, ← Nat.add_assoc] at within
    rw [List.cons_append, slice, slice, ih within]

theorem slice_shift (n pos start stop : Nat) (text : List Char) :
    slice (pos + n) (start + n) (stop + n) text = slice pos start stop text := by
  induction text generalizing pos with
  | nil => rfl
  | cons c rest ih =>
    have moved : pos + n + c.utf8Size = pos + c.utf8Size + n := by omega
    rw [slice, slice, moved, ih]
    simp only [Nat.add_le_add_iff_right, Nat.add_lt_add_iff_right]

@[simp] theorem span_ofLexemes (base : Nat) (block : List Char) (first : Lexeme) (rest : List Lexeme) :
    (ofLexemes base block first rest).span = ⟨first.span.start, (rest.getLastD first).span.stop⟩ := by
  unfold ofLexemes
  split <;> rfl

theorem ofLexemes_congr {base base' : Nat} {block block' : List Char} {first : Lexeme} {rest : List Lexeme}
    (same : slice base first.span.start (rest.getLastD first).span.stop block =
      slice base' first.span.start (rest.getLastD first).span.stop block') :
    ofLexemes base block first rest = ofLexemes base' block' first rest := by
  simp only [ofLexemes, same]

theorem ofBlock_append (base : Nat) (first second : List Char) :
    ofBlock base (first ++ ';' :: second) =
      ofBlock base first ++ ofBlock (base + Text.byteLength first + 1) second := by
  have breaks : ∀ c ∈ (';' :: second).head?, c ∈ Token.wordBreaks := by
    rintro c ⟨⟩
    decide
  have mark : Token.ofChar? ';' = some .semicolon := rfl
  have scanned : Token.scan base (first ++ ';' :: second) = Token.scan base first ++
      ⟨.semicolon, base + Text.byteLength first, base + Text.byteLength first + 1⟩ ::
        Token.scan (base + Text.byteLength first + 1) second := by
    rw [Token.scan, Token.scanFrom_append breaks, Token.scanFrom_mark mark]
    rfl
  rw [ofBlock, scanned, List.splitOnP_append_cons _ _ rfl, List.filterMap_append]
  congr 1
  · refine List.filterMap_congr fun group part => ?_
    cases group with
    | nil => rfl
    | cons lexeme rest =>
      have last := List.mem_of_getLast? (Lexeme.getLast?_cons lexeme rest)
      have within := (Token.mem_scanFrom_bounds (Text.mem_of_mem_splitOnP part last).1).2
      exact congrArg some (ofLexemes_congr (slice_append within _))
  · refine List.filterMap_congr fun group part => ?_
    cases group with
    | nil => rfl
    | cons lexeme rest =>
      have later := (Token.mem_scanFrom_bounds (Text.mem_of_mem_splitOnP part List.mem_cons_self).1).1
      have length : base + Text.byteLength first + 1 = base + Text.byteLength (first ++ [';']) := by
        rw [Text.byteLength_append]
        rfl
      refine congrArg some (ofLexemes_congr ?_)
      rw [List.append_cons, slice_skip (by rw [← length]; exact later), ← length]

/-- A part between semicolons is blank, or it writes one entry, blanks at its ends aside. -/
theorem ofBlock_segment (pos : Nat) {segment : List Char} (free : ';' ∉ segment) :
    (∀ c ∈ segment, Token.isGap c = true) ∧ ofBlock pos segment = [] ∨
      ∃ lead tail entry, segment = lead ++ Token.trim segment ++ tail ∧ (∀ c ∈ lead, Token.isGap c = true) ∧
        (∀ c ∈ tail, Token.isGap c = true) ∧ ofBlock pos segment = [entry] ∧
        entry.WrittenAs (pos + Text.byteLength lead) (Token.trim segment) := by
  by_cases blank : ∀ c ∈ segment, Token.isGap c = true
  · refine .inl ⟨blank, ?_⟩
    rw [ofBlock, Token.scan, Token.scanFrom_of_blank blank]
    rfl
  · obtain ⟨lead, tail, shape, blank', blank'', begins, ends⟩ := Text.exists_trimmed Token.isGap segment
    rw [← Token.trim] at shape begins ends
    have solid : Token.trim segment ≠ [] := by
      intro none
      refine blank fun c here => ?_
      rw [shape, none, List.append_nil] at here
      exact (List.mem_append.mp here).elim (blank' c) (blank'' c)
    have inside : Token.trim segment ⊆ segment := by
      intro c here
      rw [shape]
      exact List.mem_append_left _ (List.mem_append_right _ here)
    obtain ⟨first, rest, scanned, start, stop⟩ :=
      Token.scan_ends (pos + Text.byteLength lead) solid begins ends
    have padded : Token.scan pos segment = first :: rest :=
      ((congrArg (Token.scan pos) shape).trans (Token.scan_padded pos blank' blank'')).trans scanned
    have single : (Token.scan pos segment).splitOnP (·.token == .semicolon) = [Token.scan pos segment] := by
      refine List.splitOnP_eq_singleton fun lexeme member => ?_
      rw [beq_eq_false_iff_ne]
      exact fun semicolon => free (Token.mem_of_semicolon member semicolon)
    -- The source of the entry is the same, cut out of the part or of what is left without its blanks.
    have source : slice pos first.span.start (rest.getLastD first).span.stop segment =
        slice (pos + Text.byteLength lead) first.span.start (rest.getLastD first).span.stop (Token.trim segment) := by
      rw [start, stop]
      calc slice pos _ _ segment
        _ = slice pos _ _ (lead ++ Token.trim segment ++ tail) := congrArg (slice pos _ _) shape
        _ = Token.trim segment := slice_piece pos lead (Token.trim segment) tail
        _ = slice _ _ _ (Token.trim segment) := (slice_whole _ _).symm
    refine .inr ⟨lead, tail, ofLexemes pos segment first rest, shape, blank', blank'', ?_, ?_⟩
    · rw [ofBlock, single, padded]
      rfl
    · refine ⟨?_, solid, fun here => free (inside here), first, rest, scanned, start, stop, ofLexemes_congr source⟩
      rw [span_ofLexemes, start, stop]

theorem WrittenAs.slice_eq {start : Nat} {piece : List Char} {entry : Entry} (written : entry.WrittenAs start piece) :
    slice start entry.span.start entry.span.stop piece = piece := by
  rw [written.span]
  exact slice_whole start piece

end Entry
end Narrative
