import Mathlib.Data.List.Forall2
import Mathlib.Data.Set.List
import Narrative.Proofs.Script.Blocks

/-!
The grammar of modifier blocks. An entry is a name, alone or followed by groups of words between parentheses, with
commas between the groups; what is written otherwise is kept as it stands (`Entry.Means`). A block on one line has an
entry for each part between semicolons that is not blank, and the entry means what the tokens of its part say. So a
block in which entries are written, with blanks and semicolons added wherever they may stand, has these entries
(`Entry.ofBlock_grammar`).
-/
namespace Narrative
namespace Entry

/-- The argument that a group of words writes. -/
def groupText (group : List (List Char)) : String := String.intercalate " " (group.map String.ofList)

/-- The tokens of a name and of the groups of words after it. -/
def callTokens (name : List Char) (groups : List (List (List Char))) : List Token :=
  .word name :: .leftParen :: (List.intercalate [.comma] (groups.map (·.map Token.word)) ++ [.rightParen])

/-- An entry means what tokens say that are written with a given text. -/
structure Means (tokens : List Token) (source : String) (entry : Entry) : Prop where
  absent_iff : entry.args = .absent ↔ ∃ name, tokens = [.word name]
  list_iff : ∀ values, entry.args = .list values ↔
    ∃ name groups, tokens = callTokens name groups ∧ [] ∉ groups ∧ values = groups.map groupText
  malformed_iff : ∀ text, entry.args = .malformed text ↔ text = source ∧ (∀ name, tokens ≠ [.word name]) ∧
    ∀ name groups, tokens = callTokens name groups → [] ∈ groups
  name_of_word : ∀ name rest, tokens = .word name :: rest → entry.name = Text.lower (String.ofList name)
  name_of_source : (∀ name rest, tokens ≠ .word name :: rest) → entry.name = Text.lower source

/-! ### Arguments -/

section
variable {group inner rest : List Lexeme}

theorem filterMap_words {text? : Lexeme → Option String} {words : List (List Char)}
    (word : ∀ lexeme letters, lexeme.token = .word letters → text? lexeme = some (String.ofList letters))
    (written : group.map Lexeme.token = words.map .word) : group.filterMap text? = words.map String.ofList := by
  induction group generalizing words with
  | nil =>
    rw [List.map_nil, eq_comm, List.map_eq_nil_iff] at written
    rw [written]
    rfl
  | cons lexeme more ih =>
    cases words with
    | nil => cases written
    | cons letters others =>
      rw [List.map_cons, List.map_cons, List.cons.injEq] at written
      rw [List.filterMap_cons, word lexeme letters written.1, ih written.2]
      rfl

theorem argument?_of_words {words : List (List Char)} (some_word : words ≠ [])
    (written : group.map Lexeme.token = words.map .word) : argument? group = some (groupText words) := by
  have length : group.length = words.length := by
    simpa using congrArg List.length written
  have filled : group ≠ [] := by
    rwa [← List.length_pos_iff, length, List.length_pos_iff]
  unfold argument?
  rw [filterMap_words ?word written]
  case word =>
    intro lexeme letters isWord
    rw [isWord]
  simp [filled, length, groupText]

theorem words_of_argument? {value : String} (read : argument? group = some value) :
    ∃ words : List (List Char), words ≠ [] ∧ group.map Lexeme.token = words.map .word := by
  simp only [argument?] at read
  split at read
  · cases read
  · rename_i sound
    simp only [Bool.or_eq_true, not_or, List.isEmpty_iff, bne_iff_ne, ne_eq, not_not,
      List.filterMap_length_eq_length] at sound
    obtain ⟨filled, every⟩ := sound
    have words : group.map Lexeme.token ∈ Set.range (List.map Token.word) := by
      rw [Set.range_list_map]
      intro token member
      obtain ⟨lexeme, inside, rfl⟩ := List.mem_map.mp member
      have isWord := every lexeme inside
      cases shape : lexeme.token with
      | word w => exact ⟨w, rfl⟩
      | _ => simp [shape] at isWord
    obtain ⟨words, written⟩ := words
    refine ⟨words, ?_, written.symm⟩
    rintro rfl
    exact filled (List.map_eq_nil_iff.mp written.symm)

theorem argument?_eq_some_iff {value : String} : argument? group = some value ↔
    ∃ words : List (List Char), words ≠ [] ∧ group.map Lexeme.token = words.map .word ∧ value = groupText words := by
  constructor
  · intro read
    obtain ⟨words, some_word, written⟩ := words_of_argument? read
    rw [argument?_of_words some_word written, Option.some.injEq] at read
    exact ⟨words, some_word, written, read.symm⟩
  · rintro ⟨words, some_word, written, rfl⟩
    exact argument?_of_words some_word written

theorem mapM_argument?_eq_some_iff {parts : List (List Lexeme)} {values : List String} :
    parts.mapM argument? = some values ↔ ∃ groups : List (List (List Char)), [] ∉ groups ∧
      parts.map (·.map Lexeme.token) = groups.map (·.map .word) ∧ values = groups.map groupText := by
  induction parts generalizing values with
  | nil =>
    constructor
    · intro none
      cases none
      exact ⟨[], List.not_mem_nil, rfl, rfl⟩
    · rintro ⟨groups, _, written, rfl⟩
      rw [List.map_nil, eq_comm, List.map_eq_nil_iff] at written
      rw [written]
      rfl
  | cons part more ih =>
    have first : (part :: more).mapM argument? = some values ↔ ∃ value others, argument? part = some value ∧
        more.mapM argument? = some others ∧ values = value :: others := by
      rw [List.mapM_cons]
      simp [Option.bind_eq_some_iff, eq_comm (b := values)]
    rw [first]
    constructor
    · rintro ⟨value, others, read, later, rfl⟩
      obtain ⟨words, some_word, written, rfl⟩ := argument?_eq_some_iff.mp read
      obtain ⟨groups, filled, written', rfl⟩ := ih.mp later
      refine ⟨words :: groups, ?_, ?_, rfl⟩
      · simpa [eq_comm] using ⟨some_word, filled⟩
      · rw [List.map_cons, List.map_cons, written, written']
    · rintro ⟨groups, filled, written, rfl⟩
      cases groups with
      | nil => cases written
      | cons words groups =>
        rw [List.map_cons, List.map_cons, List.cons.injEq] at written
        rw [List.mem_cons, not_or] at filled
        refine ⟨_, _, ?_, ?_, rfl⟩
        · exact argument?_of_words (Ne.symm filled.1) written.1
        · exact ih.mpr ⟨groups, filled.2, written.2, rfl⟩

theorem arguments?_eq_some_iff {values : List String} : arguments? inner = some values ↔
    ∃ groups : List (List (List Char)), [] ∉ groups ∧
      inner.map Lexeme.token = List.intercalate [.comma] (groups.map (·.map .word)) ∧
      values = groups.map groupText := by
  have parts : (inner.splitOnP (·.token == .comma)).map (·.map Lexeme.token) =
      (inner.map Lexeme.token).splitOnP (· == .comma) :=
    (Text.splitOnP_map Lexeme.token (· == .comma) inner).symm
  -- Nothing between the parentheses is no group at all, although splitting at commas makes one empty part of it.
  by_cases none : inner = []
  · subst none
    have read : arguments? [] = some [] := rfl
    rw [read, Option.some.injEq]
    constructor
    · rintro rfl
      exact ⟨[], List.not_mem_nil, rfl, rfl⟩
    · rintro ⟨groups, filled, written, rfl⟩
      cases groups with
      | nil => rfl
      | cons words more =>
        rw [List.mem_cons, not_or] at filled
        obtain ⟨word, others, rfl⟩ := List.exists_cons_of_ne_nil (Ne.symm filled.1)
        cases more <;> cases written
  · rw [arguments?, if_neg (by simpa using none), mapM_argument?_eq_some_iff, parts]
    refine exists_congr fun groups => and_congr_right fun filled => and_congr_left fun _ => ?_
    constructor
    · intro written
      rw [← written]
      exact (List.intercalate_splitOn Token.comma).symm
    · intro written
      rw [written]
      refine List.splitOn_intercalate Token.comma ?_ ?_
      · intro part member comma
        obtain ⟨group, _, rfl⟩ := List.mem_map.mp member
        obtain ⟨word, _, ⟨⟩⟩ := List.mem_map.mp comma
      · rintro empty
        rw [empty] at written
        exact none (List.map_eq_nil_iff.mp written)

/-- After its name an entry has nothing, something between two parentheses, or something else. -/
theorem argsAfterName_cases (source : String) (rest : List Lexeme) :
    (rest = [] ∧ argsAfterName source rest = .absent) ∨
      (∃ opening inner closing, rest = opening :: (inner ++ [closing]) ∧ opening.token = .leftParen ∧
        closing.token = .rightParen ∧
        argsAfterName source rest = (arguments? inner).elim (.malformed source) .list) ∨
      (rest ≠ [] ∧ (∀ inner, rest.map Lexeme.token ≠ .leftParen :: (inner ++ [.rightParen])) ∧
        argsAfterName source rest = .malformed source) := by
  cases rest with
  | nil => exact .inl ⟨rfl, rfl⟩
  | cons opening more =>
    -- The last token closes the parentheses only if it is another one than that which opens them.
    rcases List.eq_nil_or_concat more with rfl | ⟨inner, closing, rfl⟩
    · refine .inr (.inr ⟨List.cons_ne_nil _ _, ?_, rfl⟩)
      intro inner
      simp
    · rw [List.concat_eq_append]
      by_cases parens : opening.token = .leftParen ∧ closing.token = .rightParen
      · refine .inr (.inl ⟨opening, inner, closing, rfl, parens.1, parens.2, ?_⟩)
        simp only [argsAfterName, List.getLast?_concat, parens.1, parens.2, List.dropLast_concat]
        cases arguments? inner with
        | none => rfl
        | some values => rfl
      · refine .inr (.inr ⟨List.cons_ne_nil _ _, ?_, ?_⟩)
        · intro between written
          rw [List.map_cons, List.map_append, List.map_singleton, List.cons.injEq] at written
          exact parens ⟨written.1, (List.cons.inj (List.append_inj_right' written.2 rfl)).1⟩
        · simp only [argsAfterName, List.getLast?_concat, Bool.and_eq_true, beq_iff_eq, if_neg parens]

theorem argsAfterName_absent_iff {source : String} : argsAfterName source rest = .absent ↔ rest = [] := by
  rcases argsAfterName_cases source rest with ⟨rfl, made⟩ | ⟨opening, inner, closing, rfl, _, _, made⟩ |
    ⟨some_token, _, made⟩
  · exact ⟨fun _ => rfl, fun _ => made⟩
  · rw [made]
    cases arguments? inner <;> simp
  · simp [made, some_token]

theorem argsAfterName_list_iff {source : String} {values : List String} : argsAfterName source rest = .list values ↔
    ∃ groups : List (List (List Char)), [] ∉ groups ∧ rest.map Lexeme.token =
      .leftParen :: (List.intercalate [.comma] (groups.map (·.map .word)) ++ [.rightParen]) ∧
      values = groups.map groupText := by
  rcases argsAfterName_cases source rest with ⟨rfl, made⟩ | ⟨opening, inner, closing, rfl, opens, closes, made⟩ |
    ⟨_, other, made⟩
  · simp [made]
  · have listed : (arguments? inner).elim (EntryArgs.malformed source) .list = .list values ↔
        arguments? inner = some values := by
      cases arguments? inner <;> simp
    have between : ∀ tokens, (opening :: (inner ++ [closing])).map Lexeme.token =
        .leftParen :: (tokens ++ [.rightParen]) ↔ inner.map Lexeme.token = tokens := by
      intro tokens
      rw [List.map_cons, List.map_append, List.map_singleton, opens, closes]
      simp
    simp only [made, listed, between, arguments?_eq_some_iff]
  · simp only [made, other, false_and, and_false, exists_false, reduceCtorEq]

/-- The arguments of an entry are absent or a list, or they are the source. -/
theorem argsAfterName_outcomes (source : String) (rest : List Lexeme) : argsAfterName source rest = .absent ∨
    (∃ values, argsAfterName source rest = .list values) ∨ argsAfterName source rest = .malformed source := by
  rcases argsAfterName_cases source rest with ⟨_, made⟩ | ⟨_, inner, _, _, _, _, made⟩ | ⟨_, _, made⟩
  · exact .inl made
  · rw [made]
    cases arguments? inner with
    | none => exact .inr (.inr rfl)
    | some values => exact .inr (.inl ⟨values, rfl⟩)
  · exact .inr (.inr made)

end

/-! ### Entries -/

/-- An entry is malformed if it is neither a name alone nor a name with arguments. -/
theorem malformed_iff_of_cases {tokens : List Token} {source : String} {args : EntryArgs}
    (cases : args = .absent ∨ (∃ values, args = .list values) ∨ args = .malformed source)
    (absent : args = .absent ↔ ∃ name, tokens = [.word name])
    (list : ∀ values, args = .list values ↔
      ∃ name groups, tokens = callTokens name groups ∧ [] ∉ groups ∧ values = groups.map groupText) (text : String) :
    args = .malformed text ↔ text = source ∧ (∀ name, tokens ≠ [.word name]) ∧
      ∀ name groups, tokens = callTokens name groups → [] ∈ groups := by
  constructor
  · rintro rfl
    refine ⟨?_, ?_, ?_⟩
    · rcases cases with none | ⟨values, call⟩ | same
      · cases none
      · cases call
      · exact EntryArgs.malformed.inj same
    · intro name alone
      cases absent.mpr ⟨name, alone⟩
    · intro name groups call
      by_contra filled
      cases (list _).mpr ⟨name, groups, call, filled, rfl⟩
  · rintro ⟨rfl, not_alone, not_call⟩
    rcases cases with alone | ⟨values, call⟩ | malformed
    · obtain ⟨name, written⟩ := absent.mp alone
      exact absurd written (not_alone name)
    · obtain ⟨name, groups, written, filled, _⟩ := (list values).mp call
      exact absurd (not_call name groups written) filled
    · exact malformed

theorem Means.of_word (name : List Char) (source : String) (span : Span) (rest : List Lexeme) :
    Means (.word name :: rest.map Lexeme.token) source
      ⟨Text.lower (String.ofList name), argsAfterName source rest, span⟩ := by
  have absent : argsAfterName source rest = .absent ↔
      ∃ other, .word name :: rest.map Lexeme.token = [.word other] := by
    simp [argsAfterName_absent_iff]
  have list : ∀ values, argsAfterName source rest = .list values ↔ ∃ other groups,
      .word name :: rest.map Lexeme.token = callTokens other groups ∧ [] ∉ groups ∧
        values = groups.map groupText := by
    intro values
    rw [argsAfterName_list_iff]
    constructor
    · rintro ⟨groups, filled, written, same⟩
      exact ⟨name, groups, by rw [written, callTokens], filled, same⟩
    · rintro ⟨other, groups, written, filled, same⟩
      exact ⟨groups, filled, (List.cons.inj written).2, same⟩
  refine ⟨absent, list, malformed_iff_of_cases (argsAfterName_outcomes source rest) absent list, ?_, ?_⟩
  · intro other more same
    cases same
    rfl
  · intro no_word
    exact absurd rfl (no_word name _)

theorem Means.of_other {tokens : List Token} (no_word : ∀ name more, tokens ≠ .word name :: more) (source : String)
    (span : Span) : Means tokens source ⟨Text.lower source, .malformed source, span⟩ := by
  have absent : EntryArgs.malformed source = .absent ↔ ∃ name, tokens = [.word name] := by
    constructor
    · rintro ⟨⟩
    · rintro ⟨name, alone⟩
      exact absurd alone (no_word name [])
  have list : ∀ values, EntryArgs.malformed source = .list values ↔
      ∃ name groups, tokens = callTokens name groups ∧ [] ∉ groups ∧ values = groups.map groupText := by
    intro values
    constructor
    · rintro ⟨⟩
    · rintro ⟨name, groups, call, _⟩
      exact absurd call (no_word name _)
  refine ⟨absent, list, malformed_iff_of_cases (.inr (.inr rfl)) absent list, ?_, fun _ => rfl⟩
  intro name more same
  exact absurd same (no_word name more)

theorem means_ofLexemes (base : Nat) (block : List Char) (first : Lexeme) (rest : List Lexeme) :
    (ofLexemes base block first rest).Means ((first :: rest).map Lexeme.token)
      (String.ofList (slice base first.span.start (rest.getLastD first).span.stop block)) := by
  rw [List.map_cons]
  by_cases word : ∃ name, first.token = .word name
  · obtain ⟨name, word⟩ := word
    simp only [ofLexemes, word]
    exact .of_word name _ _ rest
  · unfold ofLexemes
    split
    · exact absurd ⟨_, ‹_›⟩ word
    · refine .of_other ?_ _ _
      intro name more same
      exact word ⟨name, (List.cons.inj same).1⟩

/-- An entry means what the tokens of its text say. -/
theorem WrittenAs.means {start : Nat} {piece : List Char} {entry : Entry} (written : entry.WrittenAs start piece) :
    entry.Means ((Token.scan start piece).map Lexeme.token) (String.ofList piece) := by
  obtain ⟨first, rest, scanned, _, _, made⟩ := written.tokens
  have source := written.slice_eq
  rw [made, span_ofLexemes] at source
  have means := means_ofLexemes start piece first rest
  rwa [source, ← made, ← scanned] at means

/-- An entry says what a part of a block writes; its source is the part without the blanks at its ends. -/
def Reads (part : List Char) (entry : Entry) : Prop :=
  (∃ tokens, Token.Spells tokens part) ∧
    ∀ tokens, Token.Spells tokens part → entry.Means tokens (String.ofList (Token.trim part))

theorem reads_part (base : Nat) {part : List Char} (free : ';' ∉ part) (line : '\n' ∉ part) :
    List.Forall₂ Reads ([part].filter fun part => !part.all Token.isGap) (ofBlock base part) := by
  rcases ofBlock_segment base free with ⟨blank, none⟩ | ⟨lead, tail, entry, shape, blank, blank', single, written⟩
  · have dropped : [part].filter (fun part => !part.all Token.isGap) = [] := by
      simpa using blank
    rw [none, dropped]
    exact .nil
  · obtain ⟨first, rest, scanned, _⟩ := written.tokens
    have solid : ¬ (∀ c ∈ part, Token.isGap c = true) := by
      intro every
      have silent : Token.scan (base + Text.byteLength lead) (Token.trim part) = [] := by
        refine Token.scanFrom_of_blank fun c here => every c ?_
        rw [shape]
        exact List.mem_append_left _ (List.mem_append_right _ here)
      rw [silent] at scanned
      cases scanned
    have kept : [part].filter (fun part => !part.all Token.isGap) = [part] := by
      simpa using solid
    have padded : Token.scan base part = first :: rest :=
      ((congrArg (Token.scan base) shape).trans (Token.scan_padded base blank blank')).trans scanned
    rw [single, kept]
    refine .cons ⟨⟨_, (Token.spells_iff line base _).mpr rfl⟩, ?_⟩ .nil
    intro tokens spelled
    have means := written.means
    rwa [scanned, ← padded, (Token.spells_iff line base tokens).mp spelled] at means

theorem reads_ofBlock (base : Nat) {block : List Char} (line : '\n' ∉ block) :
    List.Forall₂ Reads ((block.splitOnP (· == ';')).filter fun part => !part.all Token.isGap)
      (ofBlock base block) := by
  have without : ∀ {part : List Char}, (∀ c ∈ part, (c == ';') = false) → ';' ∉ part := by
    intro part free semicolon
    cases free ';' semicolon
  induction block using Text.splitOnP_induction (· == ';') generalizing base with
  | part piece free =>
    rw [List.splitOnP_eq_singleton free]
    exact reads_part base (without free) line
  | more part semicolon block free stop ih =>
    rw [List.mem_append, List.mem_cons, not_or, not_or] at line
    obtain rfl := beq_iff_eq.mp stop
    have parts : (part ++ ';' :: block).splitOnP (· == ';') =
        part.splitOnP (· == ';') ++ block.splitOnP (· == ';') := List.splitOnP_append_cons part block rfl
    rw [parts, List.splitOnP_eq_singleton free, List.filter_append, ofBlock_append]
    exact List.rel_append (reads_part base (without free) line.1) (ih _ line.2.2)

/-! ### Writing entries -/

/-- An entry to be written: a name, alone or with groups of words after it. -/
structure Form where
  name : List Char
  groups : Option (List (List (List Char)))

namespace Form

/-- The tokens of the entry. -/
def tokens (form : Form) : List Token :=
  match form.groups with
  | none => [.word form.name]
  | some groups => callTokens form.name groups

/-- The arguments of the entry. -/
def args (form : Form) : EntryArgs :=
  match form.groups with
  | none => .absent
  | some groups => .list (groups.map groupText)

/-- The name is a word, and so is all that the groups consist of; no group is empty. -/
def Sound (form : Form) : Prop :=
  Token.IsWord form.name ∧ ∀ groups ∈ form.groups, ∀ group ∈ groups, group ≠ [] ∧ ∀ word ∈ group, Token.IsWord word

end Form

/-- The entry is the written one, with its name in lower case. -/
def OfForm (form : Form) (entry : Entry) : Prop :=
  entry.name = Text.lower (String.ofList form.name) ∧ entry.args = form.args

/-- A block in which entries are written, with blanks and further semicolons wherever they may stand. -/
def Writes (forms : List Form) (block : List Char) : Prop :=
  ∃ tokens, Token.Spells tokens block ∧ Text.filledFields (· == .semicolon) tokens = forms.map Form.tokens

theorem Means.of_form {form : Form} {source : String} {entry : Entry} (sound : form.Sound)
    (means : entry.Means form.tokens source) : OfForm form entry := by
  cases shape : form.groups with
  | none =>
    have tokens : form.tokens = [.word form.name] := by
      rw [Form.tokens, shape]
    rw [OfForm, Form.args, shape]
    exact ⟨means.name_of_word _ _ tokens, means.absent_iff.mpr ⟨form.name, tokens⟩⟩
  | some groups =>
    have tokens : form.tokens = callTokens form.name groups := by
      rw [Form.tokens, shape]
    have filled : [] ∉ groups := by
      intro empty
      exact (sound.2 groups shape [] empty).1 rfl
    rw [OfForm, Form.args, shape]
    exact ⟨means.name_of_word _ _ tokens, (means.list_iff _).mpr ⟨form.name, groups, tokens, filled, rfl⟩⟩

/-- The entries of a block mean what the tokens between its semicolons say. -/
theorem means_ofBlock (base : Nat) (block : List Char) :
    List.Forall₂ (fun tokens entry => ∃ source, entry.Means tokens source)
      (Text.filledFields (· == .semicolon) ((Token.scan base block).map Lexeme.token)) (ofBlock base block) := by
  have parts := Text.splitOnP_map Lexeme.token (· == .semicolon) (Token.scan base block)
  rw [Text.filledFields, parts, ofBlock]
  generalize (Token.scan base block).splitOnP (fun lexeme => lexeme.token == .semicolon) = groups
  induction groups with
  | nil => exact .nil
  | cons group groups ih =>
    cases group with
    | nil => exact ih
    | cons first rest => exact .cons ⟨_, means_ofLexemes base block first rest⟩ ih

/-- Written entries are read back. -/
theorem ofBlock_of_writes (base : Nat) {forms : List Form} {block : List Char} (sound : ∀ form ∈ forms, form.Sound)
    (written : Writes forms block) : List.Forall₂ OfForm forms (ofBlock base block) := by
  obtain ⟨tokens, spelled, parts⟩ := written
  have means := means_ofBlock base block
  rw [spelled.scan_eq base, parts, List.forall₂_map_left_iff] at means
  refine ((List.forall₂_and_left _ _).mpr ⟨sound, means⟩).imp ?_
  rintro form entry ⟨sound, source, means⟩
  exact means.of_form sound

theorem exists_spelling {tokens : List Token} (words : ∀ letters, .word letters ∈ tokens → Token.IsWord letters) :
    ∃ text, Token.Spells tokens text := by
  induction tokens with
  | nil => exact ⟨[], .nil⟩
  | cons token tokens ih =>
    obtain ⟨text, rest⟩ := ih fun letters later => words letters (List.mem_cons_of_mem token later)
    -- A blank after each token keeps words apart.
    have apart : Token.Spells tokens (' ' :: text) := .blank (by decide) rest
    cases token with
    | word letters =>
      refine ⟨letters ++ ' ' :: text, .word (words letters (List.mem_cons_self ..)) ?_ apart⟩
      rintro c ⟨⟩
      decide
    | _ => exact ⟨_, .mark (by decide) apart⟩

theorem Form.of_mem_tokens {form : Form} (sound : form.Sound) {token : Token} (member : token ∈ form.tokens) :
    token ≠ .semicolon ∧ ∀ letters, token = .word letters → Token.IsWord letters := by
  have name : Token.word form.name ≠ .semicolon ∧
      ∀ letters, Token.word form.name = .word letters → Token.IsWord letters := by
    refine ⟨Token.noConfusion, ?_⟩
    rintro letters ⟨⟩
    exact sound.1
  have mark : ∀ token ∈ [Token.leftParen, .rightParen, .comma],
      token ≠ .semicolon ∧ ∀ letters, token = .word letters → Token.IsWord letters := by
    simp
  unfold Form.tokens at member
  split at member
  · rw [List.mem_singleton.mp member]
    exact name
  · rename_i groups shape
    simp only [callTokens, List.mem_cons, List.mem_append, List.not_mem_nil, or_false] at member
    rcases member with rfl | rfl | inside | rfl
    · exact name
    · exact mark _ (by decide)
    · rcases Text.mem_of_mem_intercalate inside with comma | ⟨part, listed, inside⟩
      · rw [List.mem_singleton.mp comma]
        exact mark _ (by decide)
      · obtain ⟨group, member, rfl⟩ := List.mem_map.mp listed
        obtain ⟨word, listed, rfl⟩ := List.mem_map.mp inside
        refine ⟨Token.noConfusion, ?_⟩
        rintro letters ⟨⟩
        exact (sound.2 groups shape group member).2 word listed
    · exact mark _ (by decide)

theorem Form.tokens_ne_nil (form : Form) : form.tokens ≠ [] := by
  unfold Form.tokens
  split
  · exact List.cons_ne_nil _ _
  · exact List.cons_ne_nil _ _

/-- There is a block for any entries. -/
theorem exists_writing {forms : List Form} (sound : ∀ form ∈ forms, form.Sound) : ∃ block, Writes forms block := by
  obtain ⟨block, spelled⟩ : ∃ block, Token.Spells (List.intercalate [.semicolon] (forms.map Form.tokens)) block := by
    refine exists_spelling fun letters member => ?_
    rcases Text.mem_of_mem_intercalate member with semicolon | ⟨part, listed, inside⟩
    · cases List.mem_singleton.mp semicolon
    · obtain ⟨form, member, rfl⟩ := List.mem_map.mp listed
      exact (Form.of_mem_tokens (sound form member) inside).2 letters rfl
  refine ⟨block, _, spelled, ?_⟩
  by_cases none : forms = []
  · rw [none]
    rfl
  · have parts : (List.intercalate [.semicolon] (forms.map Form.tokens)).splitOnP (· == .semicolon) =
        forms.map Form.tokens := by
      refine List.splitOn_intercalate Token.semicolon ?_ (by simpa using none)
      intro part listed semicolon
      obtain ⟨form, member, rfl⟩ := List.mem_map.mp listed
      exact (Form.of_mem_tokens (sound form member) semicolon).1 rfl
    rw [Text.filledFields, parts, List.filter_eq_self]
    intro part listed
    obtain ⟨form, _, rfl⟩ := List.mem_map.mp listed
    simpa using form.tokens_ne_nil

/-- A block has an entry for each part between semicolons that is not blank, and it means what the tokens of the
    part say. Entries that are written anyhow are read back. -/
theorem ofBlock_grammar (base : Nat) :
    (∀ block : List Char, '\n' ∉ block → List.Forall₂ Reads
      ((block.splitOnP (· == ';')).filter fun part => !part.all Token.isGap) (ofBlock base block)) ∧
    ∀ forms : List Form, (∀ form ∈ forms, form.Sound) → (∃ block, Writes forms block) ∧
      ∀ block, Writes forms block → List.Forall₂ OfForm forms (ofBlock base block) := by
  refine ⟨fun block line => reads_ofBlock base line, fun forms sound => ⟨exists_writing sound, ?_⟩⟩
  intro block written
  exact ofBlock_of_writes base sound written

theorem ofBlock_grammar_of_gates :
    '\n' ∉ " ifNum( 1;;x(é y)(z) ; (Q".toList ∧
    List.Forall₂ Reads [" ifNum( 1".toList, "x(é y)(z) ".toList, " (Q".toList]
      (ofBlock 7 " ifNum( 1;;x(é y)(z) ; (Q".toList) ∧
    (∀ form ∈ [Form.mk ['A'] none, Form.mk ['b'] (some [[['c'], ['d']], [['e']]])], form.Sound) ∧
    Writes [Form.mk ['A'] none, Form.mk ['b'] (some [[['c'], ['d']], [['e']]])] "A ;;\tb (c  d,e); ".toList ∧
    List.Forall₂ OfForm [Form.mk ['A'] none, Form.mk ['b'] (some [[['c'], ['d']], [['e']]])]
      (ofBlock 7 "A ;;\tb (c  d,e); ".toList) := by
  have line : '\n' ∉ " ifNum( 1;;x(é y)(z) ; (Q".toList := by decide
  have sound : ∀ form ∈ [Form.mk ['A'] none, Form.mk ['b'] (some [[['c'], ['d']], [['e']]])], form.Sound := by
    simp [Form.Sound, Token.IsWord, Token.wordBreaks]
  have one_line : '\n' ∉ "A ;;\tb (c  d,e); ".toList := by decide
  have spelled := (Token.spells_iff one_line 0 _).mpr rfl
  have written : Writes [Form.mk ['A'] none, Form.mk ['b'] (some [[['c'], ['d']], [['e']]])]
      "A ;;\tb (c  d,e); ".toList := ⟨_, spelled, by decide⟩
  exact ⟨line, (ofBlock_grammar 7).1 _ line, sound, written, ((ofBlock_grammar 7).2 _ sound).2 _ written⟩

end Entry
end Narrative
