import Narrative.Proofs.Script.Consistency
import Narrative.Proofs.Script.Splitting
import Narrative.Proofs.Text.OneLine

/-!
What a finding tells is on one line. A line of a script holds no line feed, and so neither do the texts that are read
from it: the name of an unknown speaker, the arguments of a directive, and the names and arguments of entries
(`Line.onOneLine_of_parse`). Every detail of an issue is one of these texts, a written number or a name that the program
knows (`Line.OnOneLine.issues`).
-/
namespace Narrative

/-- The texts that the issues of a line can quote have no line feeds. -/
structure Line.OnOneLine (line : Line) : Prop where
  unknown : ∀ speaker text name, line.content = .dialogue speaker text (some name) → Text.OneLine name
  args : ∀ keyword args, line.content = .directive keyword args → ∀ arg ∈ args, Text.OneLine arg
  entries : ∀ entry ∈ line.block.toList, ∀ text ∈ entry.texts, Text.OneLine text

/-- The details of an issue have no line feeds. -/
def Issue.OnOneLine (issue : Issue) : Prop := ∀ detail ∈ issue.details, Text.OneLine detail

namespace Content

theorem oneLine_of_ofSpeech {body : List Char} {speaker : Speaker} {text name : String}
    (spoken : ofSpeech body = .dialogue speaker text (some name)) : Text.OneLine name := by
  unfold ofSpeech at spoken
  split at spoken
  · rename_i head rest _
    split at spoken
    · rename_i identifier
      have letters : '\n' ∉ head := by
        intro feed
        rw [isIdentifier, Bool.and_eq_true, List.all_eq_true] at identifier
        exact absurd (identifier.2 _ feed) (by decide)
      split at spoken <;> cases spoken
      exact Text.oneLine_ofList.mpr letters
    · cases spoken
  · cases spoken

theorem oneLine_of_ofBody_dialogue {body : List Char} {speaker : Speaker} {text name : String}
    (spoken : ofBody body = .dialogue speaker text (some name)) : Text.OneLine name := by
  unfold ofBody at spoken
  split at spoken
  · cases spoken
  · split at spoken
    · cases spoken
    · exact oneLine_of_ofSpeech spoken

/-- The arguments of a directive are words. -/
theorem oneLine_of_ofBody_directive {body : List Char} {keyword : Keyword} {args : List String}
    (written : ofBody body = .directive keyword args) : ∀ arg ∈ args, Text.OneLine arg := by
  have words : ∀ word ∈ (Text.wordsOf body).map String.ofList, Text.OneLine word := by
    intro word member
    obtain ⟨letters, listed, rfl⟩ := List.mem_map.mp member
    refine Text.oneLine_ofList.mpr fun feed => ?_
    exact absurd (Text.not_blank_of_mem_words listed feed) (by decide)
  unfold ofBody at written
  split at written
  · cases written
  · rename_i word rest split_words
    rw [split_words] at words
    split at written
    · cases written
      exact fun arg member => words arg (List.mem_cons_of_mem word member)
    · unfold ofSpeech at written
      split at written
      · split at written
        · split at written <;> cases written
        · cases written
      · cases written

end Content

namespace Entry

/-- The texts of an entry come from the text that it is written as. -/
theorem WrittenAs.oneLine {start : Nat} {piece : List Char} {entry : Entry} (written : entry.WrittenAs start piece)
    (free : '\n' ∉ piece) : ∀ text ∈ entry.texts, Text.OneLine text := by
  have means := written.means
  have source : Text.OneLine (String.ofList piece) := Text.oneLine_ofList.mpr free
  have words : ∀ letters, .word letters ∈ (Token.scan start piece).map Lexeme.token →
      Text.OneLine (String.ofList letters) := by
    intro letters member
    obtain ⟨lexeme, scanned, isWord⟩ := List.mem_map.mp member
    obtain ⟨before, inside, after, rfl, covered⟩ := (Token.laid_scan start piece).exists_piece scanned
    have chars := covered.chars
    rw [isWord] at chars
    refine Text.oneLine_ofList.mpr fun feed => free ?_
    rw [← chars]
    exact List.mem_append_left _ (List.mem_append_right _ feed)
  have name : Text.OneLine entry.name := by
    by_cases named : ∃ name rest, (Token.scan start piece).map Lexeme.token = .word name :: rest
    · obtain ⟨name, rest, shape⟩ := named
      rw [means.name_of_word name rest shape]
      exact (words name (by rw [shape]; exact List.mem_cons_self ..)).lower
    · rw [means.name_of_source fun name rest shape => named ⟨name, rest, shape⟩]
      exact source.lower
  have args : ∀ text ∈ entry.args.texts, Text.OneLine text := by
    cases args : entry.args with
    | absent => simp [EntryArgs.texts]
    | list values =>
      obtain ⟨name, groups, shape, _, rfl⟩ := (means.list_iff values).mp args
      intro text member
      obtain ⟨group, listed, rfl⟩ := List.mem_map.mp member
      have space : Text.OneLine " " := by decide
      refine space.intercalate fun part among => ?_
      obtain ⟨letters, inside, rfl⟩ := List.mem_map.mp among
      refine words letters ?_
      have between : Token.word letters ∈ List.intercalate [.comma] (groups.map (·.map Token.word)) :=
        Text.subset_intercalate (List.mem_map_of_mem listed) (List.mem_map_of_mem inside)
      rw [shape]
      exact List.mem_cons_of_mem _ (List.mem_cons_of_mem _ (List.mem_append_left _ between))
    | malformed text =>
      obtain ⟨rfl, _⟩ := (means.malformed_iff text).mp args
      simpa [EntryArgs.texts] using source
  exact List.forall_mem_cons.mpr ⟨name, args⟩

end Entry

theorem Line.onOneLine_ofText {place offset : Nat} {text : List Char} (free : '\n' ∉ text) :
    (ofText place offset text).OnOneLine := by
  have content : (ofText place offset text).content = Content.ofBody (splitDividers text).1 := rfl
  refine ⟨fun speaker words name spoken => ?_, fun keyword args written => ?_, fun entry inside => ?_⟩
  · exact Content.oneLine_of_ofBody_dialogue (content.symm.trans spoken)
  · exact Content.oneLine_of_ofBody_directive (content.symm.trans written)
  · obtain ⟨body, block, rfl, _, made⟩ := exists_block (List.ne_nil_of_mem inside)
    rw [made] at inside
    obtain ⟨before, piece, after, rfl, written⟩ := (Entry.laid_ofBlock _ block).exists_piece inside
    refine written.oneLine fun feed => free ?_
    exact List.mem_append_right _ (List.mem_append_left _ (List.mem_append_right _ feed))

theorem Line.onOneLine_of_parse {name source : String} {line : Line}
    (member : line ∈ (Script.parse name source).lines) :
    line.OnOneLine := by
  obtain ⟨chunk, listed, raw⟩ := Script.exists_chunk_of_parse member
  obtain ⟨place, start, text, rfl⟩ := Script.exists_ofText_of_parse member
  have written : (ofText place start text).raw.toList = text := String.toList_ofList
  refine onOneLine_ofText ?_
  rw [← written, raw]
  exact Script.free_of_mem_chunks listed

@[simp] theorem Keyword.oneLine_name (keyword : Keyword) : Text.OneLine keyword.name := by
  cases keyword <;> decide

@[simp] theorem Flag.oneLine_name (flag : Flag) : Text.OneLine flag.name := by
  cases flag <;> decide

@[simp] theorem Persona.oneLine_name (persona : Persona) : Text.OneLine persona.name := by
  cases persona <;> decide

@[simp] theorem Speaker.oneLine_name (speaker : Speaker) : Text.OneLine speaker.name := by
  cases speaker with
  | narrator who => cases who <;> decide
  | princess | player => decide
  | voice persona => exact persona.oneLine_name

@[simp] theorem ContextKind.oneLine_name (kind : ContextKind) : Text.OneLine kind.name := by
  cases kind <;> decide

@[simp] theorem Modifier.oneLine_name (modifier : Modifier) : Text.OneLine modifier.name := by
  have denial : ∀ negated : Bool, Text.OneLine (if negated then "not" else "") := by decide
  cases modifier with
  | flag flag negated => exact (denial negated).append flag.oneLine_name
  | context check negated => exact check.kind.oneLine_name.append (denial negated)
  | checkVoice personas | checkNoVoice personas => rw [name]; decide
  | interrupt => decide

namespace Line

theorem onOneLine_argumentIssue (keyword : Keyword) {fault : ArgumentFault}
    (texts : ∀ text ∈ fault.texts, Text.OneLine text) : (argumentIssue keyword fault).OnOneLine := by
  cases fault with
  | unexpected _ | notInteger _ | negative _ | missingPrefix _ | missingSuffix _ => exact texts
  | _ => cases keyword <;> simp [argumentIssue, Issue.OnOneLine]

theorem onOneLine_entryIssue {fault : ModifierFault} (texts : ∀ text ∈ fault.texts, Text.OneLine text) :
    (entryIssue fault).OnOneLine := by
  cases fault with
  | contextCount name count => simpa [entryIssue, Issue.OnOneLine, ModifierFault.texts] using texts
  | _ => exact texts

theorem onOneLine_referenceIssues {labels : LabelTable} {defect : Defect} {directive : Directive}
    (texts : ∀ text ∈ directive.references, Text.OneLine text) :
    ∀ issue ∈ referenceIssues labels defect directive, issue.OnOneLine := by
  intro issue found
  simp only [referenceIssues] at found
  split at found
  · cases found
  · rw [List.mem_singleton.mp found]
    intro detail listed
    exact texts detail (List.mem_filter.mp (mem_distinctFrom.mp listed).1).1

theorem onOneLine_soundDirectiveIssues {labels : LabelTable} {size : Nat} {line : Line} {directive : Directive}
    (texts : ∀ text ∈ directive.mentions, Text.OneLine text) :
    ∀ issue ∈ soundDirectiveIssues labels size line directive, issue.OnOneLine := by
  cases directive with
  | jumpto target =>
    cases target with
    | label _ => exact onOneLine_referenceIssues texts
    | line _ => simp only [soundDirectiveIssues]; split <;> simp [Issue.OnOneLine]
  | halt => simp only [soundDirectiveIssues]; split <;> simp [Issue.OnOneLine]
  | sourceSwitch base =>
    have one : Text.OneLine base := texts base (List.mem_singleton_self base)
    simp only [soundDirectiveIssues]
    split <;> simp [Issue.OnOneLine, one]
  | label _ | pause _ _ | nowPlaying _ => simp [soundDirectiveIssues]
  | _ => exact onOneLine_referenceIssues texts

end Line

namespace Conflict
variable {ms : List Modifier}

theorem onOneLine_flagIssues (keyword : Option Keyword) (ms : List Modifier) :
    ∀ issue ∈ flagIssues keyword ms, issue.OnOneLine := by
  refine List.forall_mem_append.mpr ⟨?_, ?_⟩
  · exact List.forall_mem_map.mpr fun flag _ => by simp [Issue.OnOneLine]
  · cases keyword with
    | none => simp
    | some keyword => exact List.forall_mem_map.mpr fun modifier _ => by simp [Issue.OnOneLine]

theorem onOneLine_contextIssues (keyword : Option Keyword)
    (texts : ∀ modifier ∈ ms, ∀ text ∈ modifier.texts, Text.OneLine text) :
    ∀ issue ∈ contextIssues keyword ms, issue.OnOneLine := by
  have value {kind : ContextKind} {negated : Bool} {check : ContextCheck} (asked : check ∈ checksOf kind negated ms) :
      Text.OneLine check.text := by
    have among := (mem_checksOf.mp asked).2
    cases check with
    | source value | string value => exact texts _ among value (List.mem_singleton_self value)
    | number n => exact Text.oneLine_repr_int n
  refine List.forall_mem_append.mpr ⟨?_, ?_⟩
  · intro issue found
    obtain ⟨kind, _, listed⟩ := List.mem_flatMap.mp found
    rcases List.mem_append.mp listed with both | several
    · obtain ⟨check, asked, rfl⟩ := List.mem_map.mp both
      simpa [Issue.OnOneLine] using value (List.mem_filter.mp asked).1
    · split at several
      · rw [List.mem_singleton.mp several]
        intro detail told
        obtain ⟨check, asked, rfl⟩ := List.mem_map.mp told
        exact value asked
      · cases several
  · cases keyword with
    | none => simp
    | some keyword => exact List.forall_mem_map.mpr fun modifier _ => by simp [Issue.OnOneLine]

theorem onOneLine_voiceIssues (speaker : Option Persona) (ms : List Modifier) :
    ∀ issue ∈ voiceIssues speaker ms, issue.OnOneLine := by
  refine List.forall_mem_append.mpr ⟨?_, ?_⟩
  · split <;> simp [Issue.OnOneLine]
  · cases speaker with
    | none => simp
    | some persona => dsimp only; split <;> simp [Issue.OnOneLine]

end Conflict

namespace Line.OnOneLine
variable {line : Line} (one : line.OnOneLine)
include one

theorem speakerIssues : ∀ issue ∈ line.speakerIssues, issue.OnOneLine := by
  unfold Line.speakerIssues
  split
  · rename_i speaker text name spoken
    simpa [Issue.OnOneLine] using one.unknown speaker text name spoken
  · simp

theorem directiveIssues (labels : LabelTable) (size : Nat) :
    ∀ issue ∈ line.directiveIssues labels size, issue.OnOneLine := by
  unfold Line.directiveIssues
  split
  · rename_i keyword args written
    have texts := one.args keyword args written
    split
    · rename_i directive read
      exact onOneLine_soundDirectiveIssues fun text among => texts text (Directive.mentions_subset_of_read read among)
    · rename_i fault unread
      refine List.forall_mem_singleton.mpr (onOneLine_argumentIssue keyword fun text among => ?_)
      exact texts text (Directive.texts_subset_of_read unread among)
  · simp

theorem texts_of_modifiers : ∀ modifier ∈ line.modifiers, ∀ text ∈ modifier.texts, Text.OneLine text := by
  intro modifier gated text among
  obtain ⟨entry, inside, read⟩ := Line.exists_entry_of_modifiers gated
  exact one.entries entry inside text (List.mem_cons_of_mem _ ((Modifier.made_of_ofEntry read).2 among))

theorem modifierIssues : ∀ issue ∈ line.modifierIssues, issue.OnOneLine := by
  have distinct : ∀ modifier ∈ distinctFrom [] line.modifiers, ∀ text ∈ modifier.texts, Text.OneLine text :=
    fun modifier among => one.texts_of_modifiers modifier (mem_distinctFrom.mp among).1
  have silent_speaker : Text.OneLine ((line.speaker?.map Speaker.name).getD "no speaker") := by
    cases line.speaker? with
    | none => decide
    | some speaker => exact speaker.oneLine_name
  simp only [Line.modifierIssues, Conflict.issues, List.forall_mem_append]
  refine ⟨⟨⟨?_, ?_⟩, ?_⟩, ⟨?_, ?_⟩, ?_⟩
  · exact List.forall_mem_map.mpr fun modifier _ => by simp [Issue.OnOneLine]
  · split <;> simp [Issue.OnOneLine]
  · split <;> simp [Issue.OnOneLine, silent_speaker]
  · exact Conflict.onOneLine_flagIssues _ _
  · exact Conflict.onOneLine_contextIssues _ distinct
  · exact Conflict.onOneLine_voiceIssues _ _

theorem blockIssues : ∀ issue ∈ line.blockIssues, issue.OnOneLine := by
  unfold Line.blockIssues
  split
  · simp
  · simp [Issue.OnOneLine]
  · simp [Issue.OnOneLine]
  · rename_i entries block
    have written : ∀ entry ∈ entries, ∀ text ∈ entry.texts, Text.OneLine text := by
      have entries := one.entries
      rwa [block] at entries
    split
    · refine List.forall_mem_singleton.mpr (List.forall_mem_map.mpr fun entry inside => ?_)
      exact written entry inside _ (List.mem_cons_self ..)
    · refine List.forall_mem_append.mpr ⟨?_, one.modifierIssues⟩
      intro issue found
      obtain ⟨entry, inside, faulty⟩ := List.mem_filterMap.mp found
      split at faulty
      · cases faulty
      · rename_i fault unread
        cases faulty
        refine onOneLine_entryIssue fun text among => ?_
        exact written entry inside text (Modifier.texts_subset_of_ofEntry unread among)

theorem labelIssues (labels : LabelTable) (used : List String) :
    ∀ issue ∈ line.labelIssues labels used, issue.OnOneLine := by
  unfold Line.labelIssues
  split
  · simp
  · rename_i name defines
    have label : Text.OneLine name := by
      have content := Line.definition?_eq_some_iff.mp defines
      exact one.args .label [name] content name (List.mem_singleton_self name)
    split
    · simp [Issue.OnOneLine, label]
    · split <;> simp [Issue.OnOneLine, label]

/-- What is wrong with a line without line feeds is told without line feeds. -/
theorem issues (labels : LabelTable) (size : Nat) (used : List String) :
    ∀ issue ∈ line.issues labels size used, issue.OnOneLine := by
  simp only [Line.issues, List.forall_mem_append]
  exact ⟨⟨⟨one.speakerIssues, one.directiveIssues labels size⟩, one.blockIssues⟩, one.labelIssues labels used⟩

end Line.OnOneLine
end Narrative
