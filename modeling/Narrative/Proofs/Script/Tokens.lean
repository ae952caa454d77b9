import Narrative.Proofs.Text.Fields
import Narrative.Script.Token

/-!
The tokens of a block. A text spells tokens if it puts their characters one after the other, with blanks where it
likes, and ends a word only where no other character can join it (`Token.Spells`). Scanning finds the tokens
that a text on one line spells, and there are no others (`spells_iff`). The tokens of a text lie within it
(`mem_scanFrom_bounds`), the first of them begins it and the last one ends it, blanks at both ends aside
(`head?_scanFrom`, `getLast?_scanFrom`).
-/
namespace Narrative

/-- The token moved towards the end of the source. -/
def Lexeme.shift (n : Nat) (lexeme : Lexeme) : Lexeme := { lexeme with span := lexeme.span.shift n }

theorem Lexeme.getLast?_cons (first : Lexeme) (rest : List Lexeme) :
    (first :: rest).getLast? = some (rest.getLastD first) := by
  rw [List.getLast?_cons, List.getLastD_eq_getLast?]

namespace Token

/-- The characters at which a word ends. -/
def wordBreaks : List Char := [' ', '\t', '\r', '\n', '(', ')', ',', ';']

/-- A text without the blanks at its ends. -/
def trim (text : List Char) : List Char := Text.trimBy isGap text

/-- A text that is a word. -/
def IsWord (text : List Char) : Prop := text ≠ [] ∧ ∀ c ∈ text, c ∉ wordBreaks

/-- A text spells tokens, in order. -/
inductive Spells : List Token → List Char → Prop where
  | nil : Spells [] []
  /-- A blank belongs to no token. -/
  | blank {c : Char} {tokens : List Token} {text : List Char} (gap : c ∈ [' ', '\t', '\r'])
      (rest : Spells tokens text) : Spells tokens (c :: text)
  | mark {mark : Token} {tokens : List Token} {text : List Char}
      (known : mark ∈ [leftParen, rightParen, comma, semicolon]) (rest : Spells tokens text) :
      Spells (mark :: tokens) (mark.chars ++ text)
  /-- A word is as long as it can be. -/
  | word {letters : List Char} {tokens : List Token} {text : List Char} (isWord : IsWord letters)
      (ends : ∀ c ∈ text.head?, c ∈ wordBreaks) (rest : Spells tokens text) :
      Spells (word letters :: tokens) (letters ++ text)

theorem isGap_iff {c : Char} : isGap c = true ↔ c ∈ [' ', '\t', '\r'] := by
  simp [isGap, or_assoc]

/-- A character that is a token by itself is one of the marks, or a line feed. -/
theorem mark_of_ofChar? {c : Char} {token : Token} (mark : ofChar? c = some token) :
    isGap c = false ∧ token.chars = [c] ∧
      (token ∈ [leftParen, rightParen, comma, semicolon] ∨ (c = '\n' ∧ token = word ['\n'])) := by
  unfold ofChar? at mark
  split at mark
  all_goals cases mark
  all_goals decide

theorem mem_wordBreaks {c : Char} : c ∈ wordBreaks ↔ isGap c = true ∨ (ofChar? c).isSome = true := by
  constructor
  · intro breaks
    simp only [wordBreaks, List.mem_cons, List.not_mem_nil, or_false] at breaks
    rcases breaks with rfl | rfl | rfl | rfl | rfl | rfl | rfl | rfl
    all_goals decide
  · rintro (gap | mark)
    · rw [isGap_iff] at gap
      simp only [List.mem_cons, List.not_mem_nil, or_false] at gap
      rcases gap with rfl | rfl | rfl
      all_goals decide
    · obtain ⟨token, mark⟩ := Option.isSome_iff_exists.mp mark
      unfold ofChar? at mark
      split at mark
      all_goals first | decide | cases mark

section
variable {c : Char} {pos : Nat} {pending rest : List Char}

theorem scanFrom_gap (gap : isGap c = true) :
    scanFrom pos pending (c :: rest) = pendingWord pos pending ++ scanFrom (pos + c.utf8Size) [] rest := by
  rw [scanFrom, if_pos gap]

theorem scanFrom_mark {token : Token} (mark : ofChar? c = some token) :
    scanFrom pos pending (c :: rest) =
      pendingWord pos pending ++ ⟨token, pos, pos + c.utf8Size⟩ :: scanFrom (pos + c.utf8Size) [] rest := by
  rw [scanFrom, if_neg (by simp [(mark_of_ofChar? mark).1]), mark]

theorem scanFrom_letter (letter : c ∉ wordBreaks) :
    scanFrom pos pending (c :: rest) = scanFrom (pos + c.utf8Size) (c :: pending) rest := by
  rw [mem_wordBreaks, not_or] at letter
  rw [scanFrom, if_neg letter.1, Option.not_isSome_iff_eq_none.mp letter.2]

/-- A character is a blank, a token by itself, or a letter of a word. -/
theorem scanFrom_induction {motive : Nat → List Char → List Char → Prop}
    (nil : ∀ pos pending, motive pos pending [])
    (gap : ∀ pos pending c rest, isGap c = true → motive (pos + c.utf8Size) [] rest → motive pos pending (c :: rest))
    (mark : ∀ pos pending c token rest, ofChar? c = some token → motive (pos + c.utf8Size) [] rest →
      motive pos pending (c :: rest))
    (letter : ∀ pos pending c rest, c ∉ wordBreaks → motive (pos + c.utf8Size) (c :: pending) rest →
      motive pos pending (c :: rest))
    (pos : Nat) (pending text : List Char) : motive pos pending text := by
  induction text generalizing pos pending with
  | nil => exact nil pos pending
  | cons c rest ih =>
    by_cases breaks : c ∈ wordBreaks
    · rcases mem_wordBreaks.mp breaks with blank | standing
      · exact gap pos pending c rest blank (ih _ _)
      · obtain ⟨token, standing⟩ := Option.isSome_iff_exists.mp standing
        exact mark pos pending c token rest standing (ih _ _)
    · exact letter pos pending c rest breaks (ih _ _)

end

theorem mem_pendingWord {pos : Nat} {pending : List Char} {lexeme : Lexeme}
    (member : lexeme ∈ Token.pendingWord pos pending) :
    lexeme = ⟨.word pending.reverse, pos - Text.byteLength pending, pos⟩ := by
  by_cases none : pending.isEmpty = true
  · simp [Token.pendingWord, none] at member
  · simpa [Token.pendingWord, none] using member

/-- Where a word ends, it is put out and scanning begins anew. -/
theorem scanFrom_flush {pos : Nat} {pending text : List Char} (ends : ∀ c ∈ text.head?, c ∈ wordBreaks) :
    scanFrom pos pending text = pendingWord pos pending ++ scanFrom pos [] text := by
  cases text with
  | nil => simp [scanFrom, pendingWord]
  | cons c rest =>
    rcases mem_wordBreaks.mp (ends c rfl) with gap | mark
    · rw [scanFrom_gap gap, scanFrom_gap gap]
      simp [pendingWord]
    · obtain ⟨token, mark⟩ := Option.isSome_iff_exists.mp mark
      rw [scanFrom_mark mark, scanFrom_mark mark]
      simp [pendingWord]

/-- A text is scanned in two parts if no word goes across. -/
theorem scanFrom_append {pos : Nat} {pending first second : List Char}
    (ends : ∀ c ∈ second.head?, c ∈ wordBreaks) :
    scanFrom pos pending (first ++ second) =
      scanFrom pos pending first ++ scanFrom (pos + Text.byteLength first) [] second := by
  induction pos, pending, first using scanFrom_induction with
  | nil pos pending => simpa [scanFrom, Text.byteLength] using scanFrom_flush ends
  | gap pos pending c rest gap ih =>
    rw [List.cons_append, scanFrom_gap gap, scanFrom_gap gap, ih, List.append_assoc, Text.byteLength, Nat.add_assoc]
  | mark pos pending c token rest mark ih =>
    rw [List.cons_append, scanFrom_mark mark, scanFrom_mark mark, ih, List.append_assoc, List.cons_append,
      Text.byteLength, Nat.add_assoc]
  | letter pos pending c rest letter ih =>
    rw [List.cons_append, scanFrom_letter letter, scanFrom_letter letter, ih, Text.byteLength, Nat.add_assoc]

theorem scanFrom_letters {pos : Nat} {pending letters text : List Char} (word : ∀ c ∈ letters, c ∉ wordBreaks) :
    scanFrom pos pending (letters ++ text) =
      scanFrom (pos + Text.byteLength letters) (letters.reverse ++ pending) text := by
  induction letters generalizing pos pending with
  | nil => rfl
  | cons c rest ih =>
    rw [List.cons_append, scanFrom_letter (word c (by simp)), ih fun d later => word d (List.mem_cons_of_mem c later)]
    simp [Text.byteLength, Nat.add_assoc]

theorem scanFrom_gaps {pos : Nat} {gaps text : List Char} (blank : ∀ c ∈ gaps, isGap c = true) :
    scanFrom pos [] (gaps ++ text) = scanFrom (pos + Text.byteLength gaps) [] text := by
  induction gaps generalizing pos with
  | nil => rfl
  | cons c rest ih =>
    rw [List.cons_append, scanFrom_gap (blank c (by simp)), ih fun d later => blank d (List.mem_cons_of_mem c later)]
    simp [pendingWord, Text.byteLength, Nat.add_assoc]

theorem scanFrom_of_blank {pos : Nat} {text : List Char} (blank : ∀ c ∈ text, isGap c = true) :
    scanFrom pos [] text = [] := by
  have scanned : scanFrom pos [] (text ++ []) = scanFrom (pos + Text.byteLength text) [] [] := scanFrom_gaps blank
  rwa [List.append_nil] at scanned

theorem mem_of_semicolon {pos : Nat} {pending text : List Char} {lexeme : Lexeme}
    (member : lexeme ∈ scanFrom pos pending text) (semicolon : lexeme.token = .semicolon) : ';' ∈ text := by
  have other : ∀ pos pending, lexeme ∉ Token.pendingWord pos pending := by
    intro pos pending own
    rw [mem_pendingWord own] at semicolon
    cases semicolon
  induction pos, pending, text using scanFrom_induction with
  | nil pos pending => exact absurd member (other pos pending)
  | gap pos pending c rest gap ih =>
    rw [scanFrom_gap gap] at member
    exact List.mem_cons_of_mem c (ih ((List.mem_append.mp member).resolve_left (other pos pending)))
  | mark pos pending c token rest mark ih =>
    rw [scanFrom_mark mark] at member
    rcases List.mem_cons.mp ((List.mem_append.mp member).resolve_left (other pos pending)) with rfl | later
    · dsimp only at semicolon
      subst semicolon
      obtain ⟨_, chars, _⟩ := mark_of_ofChar? mark
      cases chars
      exact List.mem_cons_self ..
    · exact List.mem_cons_of_mem c (ih later)
  | letter pos pending c rest letter ih =>
    rw [scanFrom_letter letter] at member
    exact List.mem_cons_of_mem c (ih member)

/-- Blanks at the ends of a text are nothing to its tokens. -/
theorem scan_padded (pos : Nat) {lead core tail : List Char} (blank : ∀ c ∈ lead, isGap c = true)
    (blank' : ∀ c ∈ tail, isGap c = true) :
    scan pos (lead ++ core ++ tail) = scan (pos + Text.byteLength lead) core := by
  have breaks : ∀ c ∈ tail.head?, c ∈ wordBreaks :=
    fun c first => mem_wordBreaks.mpr (.inl (blank' c (List.mem_of_head? first)))
  rw [scan, List.append_assoc, scanFrom_gaps blank, scanFrom_append breaks, scanFrom_of_blank blank', List.append_nil,
    scan]

theorem Spells.pendingWord {tokens : List Token} {pending text : List Char} (pos : Nat)
    (letters : ∀ c ∈ pending, c ∉ wordBreaks) (ends : ∀ c ∈ text.head?, c ∈ wordBreaks) (rest : Spells tokens text) :
    Spells ((pendingWord pos pending).map Lexeme.token ++ tokens) (pending.reverse ++ text) := by
  cases pending with
  | nil => exact rest
  | cons c before =>
    refine .word ⟨by simp, fun d here => letters d (List.mem_reverse.mp here)⟩ ends rest

theorem spells_scanFrom {pos : Nat} {pending text : List Char} (letters : ∀ c ∈ pending, c ∉ wordBreaks)
    (line : '\n' ∉ text) : Spells ((scanFrom pos pending text).map Lexeme.token) (pending.reverse ++ text) := by
  induction pos, pending, text using scanFrom_induction with
  | nil pos pending => simpa [scanFrom] using Spells.pendingWord pos letters (by simp) .nil
  | gap pos pending c rest gap ih =>
    have breaks : ∀ d ∈ (c :: rest).head?, d ∈ wordBreaks := by
      rintro d ⟨⟩
      exact mem_wordBreaks.mpr (.inl gap)
    rw [scanFrom_gap gap, List.map_append]
    exact Spells.pendingWord pos letters breaks
      (.blank (isGap_iff.mp gap) (ih (by simp) (List.not_mem_of_not_mem_cons line)))
  | mark pos pending c token rest mark ih =>
    have breaks : ∀ d ∈ (c :: rest).head?, d ∈ wordBreaks := by
      rintro d ⟨⟩
      exact mem_wordBreaks.mpr (.inr (by rw [mark]; rfl))
    obtain ⟨_, chars, known | ⟨rfl, _⟩⟩ := mark_of_ofChar? mark
    · rw [scanFrom_mark mark, List.map_append]
      have own : Spells (token :: (scanFrom (pos + c.utf8Size) [] rest).map Lexeme.token) (token.chars ++ rest) :=
        .mark known (ih (by simp) (List.not_mem_of_not_mem_cons line))
      rw [chars] at own
      exact Spells.pendingWord pos letters breaks own
    · -- A line feed is a token of its own without being a mark.
      exact absurd (List.mem_cons_self ..) line
  | letter pos pending c rest letter ih =>
    have joined : ∀ d ∈ c :: pending, d ∉ wordBreaks := by
      rintro d (_ | ⟨_, before⟩)
      · exact letter
      · exact letters d before
    rw [scanFrom_letter letter]
    simpa using ih joined (List.not_mem_of_not_mem_cons line)

theorem Spells.scan_eq {tokens : List Token} {text : List Char} (spells : Spells tokens text) (pos : Nat) :
    (scan pos text).map Lexeme.token = tokens := by
  induction spells generalizing pos with
  | nil => rfl
  | @blank c tokens text gap rest ih =>
    rw [scan, scanFrom_gap (isGap_iff.mpr gap)]
    exact ih _
  | @mark mark tokens text known rest ih =>
    simp only [List.mem_cons, List.not_mem_nil, or_false] at known
    rcases known with rfl | rfl | rfl | rfl
    all_goals
      rw [scan, chars, List.singleton_append, scanFrom_mark rfl]
      exact congrArg _ (ih _)
  | @word letters tokens text isWord ends rest ih =>
    rw [scan, scanFrom_letters isWord.2, scanFrom_flush ends, List.append_nil, List.map_append]
    have own : ∀ pos, (Token.pendingWord pos letters.reverse).map Lexeme.token = [Token.word letters] := by
      intro pos
      simp [Token.pendingWord, isWord.1]
    rw [own]
    exact congrArg _ (ih _)

/-- A text on one line spells the tokens that are scanned in it, and no others. -/
theorem spells_iff {text : List Char} (line : '\n' ∉ text) (pos : Nat) (tokens : List Token) :
    Spells tokens text ↔ (scan pos text).map Lexeme.token = tokens := by
  constructor
  · exact fun spells => spells.scan_eq pos
  · rintro rfl
    exact spells_scanFrom (by simp) line

theorem pendingWord_shift (n : Nat) {pos : Nat} {pending : List Char} (before : Text.byteLength pending ≤ pos) :
    Token.pendingWord (pos + n) pending = (Token.pendingWord pos pending).map (Lexeme.shift n) := by
  by_cases none : pending.isEmpty = true
  · simp [Token.pendingWord, none]
  · have moved : pos + n - Text.byteLength pending = pos - Text.byteLength pending + n := by omega
    simp [Token.pendingWord, none, Lexeme.shift, Span.shift, moved]

/-- The tokens of a text keep their distance from its beginning. -/
theorem scanFrom_shift (n : Nat) {pos : Nat} {pending text : List Char} (before : Text.byteLength pending ≤ pos) :
    scanFrom (pos + n) pending text = (scanFrom pos pending text).map (Lexeme.shift n) := by
  have moved : ∀ pos (c : Char), pos + n + c.utf8Size = pos + c.utf8Size + n := by
    intro pos c
    omega
  induction pos, pending, text using scanFrom_induction with
  | nil pos pending => exact pendingWord_shift n before
  | gap pos pending c rest gap ih =>
    rw [scanFrom_gap gap, scanFrom_gap gap, List.map_append, pendingWord_shift n before, moved, ih (Nat.zero_le _)]
  | mark pos pending c token rest mark ih =>
    rw [scanFrom_mark mark, scanFrom_mark mark, List.map_append, List.map_cons, pendingWord_shift n before, moved,
      ih (Nat.zero_le _)]
    rfl
  | letter pos pending c rest letter ih =>
    have joined : Text.byteLength (c :: pending) ≤ pos + c.utf8Size := by
      rw [Text.byteLength]
      omega
    rw [scanFrom_letter letter, scanFrom_letter letter, moved, ih joined]

/-- The tokens of a text lie within it. -/
theorem mem_scanFrom_bounds {pos : Nat} {pending text : List Char} {lexeme : Lexeme}
    (member : lexeme ∈ scanFrom pos pending text) :
    pos - Text.byteLength pending ≤ lexeme.span.start ∧ lexeme.span.stop ≤ pos + Text.byteLength text := by
  induction pos, pending, text using scanFrom_induction with
  | nil pos pending =>
    rw [mem_pendingWord member]
    exact ⟨Nat.le_refl _, Nat.le_refl _⟩
  | gap pos pending c rest gap ih =>
    rw [Text.byteLength]
    rw [scanFrom_gap gap] at member
    rcases List.mem_append.mp member with own | later
    · rw [mem_pendingWord own]
      exact ⟨Nat.le_refl _, Nat.le_add_right _ _⟩
    · obtain ⟨low, high⟩ := ih later
      rw [Text.byteLength] at low
      omega
  | mark pos pending c token rest mark ih =>
    rw [Text.byteLength]
    rw [scanFrom_mark mark] at member
    rcases List.mem_append.mp member with own | standing
    · rw [mem_pendingWord own]
      exact ⟨Nat.le_refl _, Nat.le_add_right _ _⟩
    · rcases List.mem_cons.mp standing with rfl | later
      · dsimp only
        omega
      · obtain ⟨low, high⟩ := ih later
        rw [Text.byteLength] at low
        omega
  | letter pos pending c rest letter ih =>
    rw [scanFrom_letter letter] at member
    obtain ⟨low, high⟩ := ih member
    rw [Text.byteLength] at low ⊢
    omega

/-- The first token begins where the text does, or where a word has begun before it. -/
theorem head?_scanFrom {pos : Nat} {pending text : List Char}
    (begins : pending ≠ [] ∨ ∃ c ∈ text.head?, isGap c = false) :
    ∃ lexeme ∈ (scanFrom pos pending text).head?, lexeme.span.start = pos - Text.byteLength pending := by
  have own : ∀ pos (pending : List Char) later, pending ≠ [] →
      ∃ lexeme ∈ (Token.pendingWord pos pending ++ later).head?,
        lexeme.span.start = pos - Text.byteLength pending := by
    intro pos pending later some_letter
    refine ⟨⟨.word pending.reverse, pos - Text.byteLength pending, pos⟩, ?_, rfl⟩
    simp [Token.pendingWord, some_letter]
  induction pos, pending, text using scanFrom_induction with
  | nil pos pending =>
    rcases begins with some_letter | ⟨c, ⟨⟩, _⟩
    simpa [scanFrom] using own pos pending [] some_letter
  | gap pos pending c rest gap ih =>
    rcases begins with some_letter | ⟨d, ⟨⟩, solid⟩
    · rw [scanFrom_gap gap]
      exact own pos pending _ some_letter
    · rw [gap] at solid
      cases solid
  | mark pos pending c token rest mark ih =>
    rw [scanFrom_mark mark]
    by_cases none : pending = []
    · subst none
      exact ⟨_, rfl, rfl⟩
    · exact own pos pending _ none
  | letter pos pending c rest letter ih =>
    rw [scanFrom_letter letter]
    obtain ⟨lexeme, first, start⟩ := ih (.inl (List.cons_ne_nil c pending))
    refine ⟨lexeme, first, ?_⟩
    rw [start, Text.byteLength]
    omega

/-- The last token ends where the text does. -/
theorem getLast?_scanFrom {pos : Nat} {pending text : List Char} (some_letter : pending ≠ [] ∨ text ≠ [])
    (ends : ∀ c ∈ text.getLast?, isGap c = false) :
    ∃ lexeme ∈ (scanFrom pos pending text).getLast?, lexeme.span.stop = pos + Text.byteLength text := by
  induction pos, pending, text using scanFrom_induction with
  | nil pos pending =>
    have letters : pending ≠ [] := some_letter.resolve_right (by simp)
    refine ⟨⟨.word pending.reverse, pos - Text.byteLength pending, pos⟩, ?_, rfl⟩
    simp [scanFrom, Token.pendingWord, letters]
  | gap pos pending c rest gap ih =>
    by_cases none : rest = []
    · subst none
      rw [ends c rfl] at gap
      cases gap
    · obtain ⟨lexeme, last, stop⟩ := ih (.inr none) (by rwa [List.getLast?_cons_of_ne_nil none] at ends)
      refine ⟨lexeme, ?_, ?_⟩
      · rw [scanFrom_gap gap, List.getLast?_append, last, Option.some_or]
        rfl
      · rw [stop, Text.byteLength, Nat.add_assoc]
  | mark pos pending c token rest mark ih =>
    rw [scanFrom_mark mark]
    by_cases none : rest = []
    · subst none
      exact ⟨⟨token, pos, pos + c.utf8Size⟩, by simp [scanFrom, Token.pendingWord], by simp [Text.byteLength]⟩
    · obtain ⟨lexeme, last, stop⟩ := ih (.inr none) (by rwa [List.getLast?_cons_of_ne_nil none] at ends)
      refine ⟨lexeme, ?_, ?_⟩
      · rw [List.getLast?_append, List.getLast?_cons, last]
        rfl
      · rw [stop, Text.byteLength, Nat.add_assoc]
  | letter pos pending c rest letter ih =>
    rw [scanFrom_letter letter]
    have later : ∀ d ∈ rest.getLast?, isGap d = false := by
      intro d last
      refine ends d ?_
      rw [List.getLast?_cons, last]
      rfl
    obtain ⟨lexeme, last, stop⟩ := ih (.inl (List.cons_ne_nil c pending)) later
    refine ⟨lexeme, last, ?_⟩
    rw [stop, Text.byteLength, Nat.add_assoc]

/-- The tokens of a text that neither begins nor ends with a blank reach from its beginning to its end. -/
theorem scan_ends (pos : Nat) {text : List Char} (solid : text ≠ []) (begins : ∀ c ∈ text.head?, isGap c = false)
    (ends : ∀ c ∈ text.getLast?, isGap c = false) :
    ∃ first rest, scan pos text = first :: rest ∧ first.span.start = pos ∧
      (rest.getLastD first).span.stop = pos + Text.byteLength text := by
  obtain ⟨c, more, rfl⟩ := List.exists_cons_of_ne_nil solid
  have opens : ([] : List Char) ≠ [] ∨ ∃ d ∈ (c :: more).head?, isGap d = false := .inr ⟨c, rfl, begins c rfl⟩
  obtain ⟨first, head, start⟩ : ∃ lexeme ∈ (scanFrom pos [] (c :: more)).head?, lexeme.span.start = pos :=
    head?_scanFrom opens
  obtain ⟨rest, scanned⟩ := List.head?_eq_some_iff.mp head
  obtain ⟨last, final, stop⟩ : ∃ lexeme ∈ (scanFrom pos [] (c :: more)).getLast?,
      lexeme.span.stop = pos + Text.byteLength (c :: more) := getLast?_scanFrom (.inr solid) ends
  rw [scanned, Lexeme.getLast?_cons] at final
  cases final
  exact ⟨first, rest, scanned, start, stop⟩

end Token
end Narrative
