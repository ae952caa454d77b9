import Narrative.Script.Directive
import Narrative.Script.Modifier

/-!
What sound arguments write, and what is wrong with the others. Each reader of arguments of directives is inverted once,
and together they say that a directive has the keyword in front of its arguments (`Directive.keyword_of_read`), that a
keyword has faults of its own (`Directive.isOf_of_read`), and that the texts in a directive or in a fault are arguments
(`mentions_subset_of_read`, `texts_subset_of_read`). What an entry of a modifier block writes is sound as well
(`Modifier.sound_of_ofEntry`).
-/
namespace Narrative

private theorem exists_of_map {ε α β : Type} {f : α → β} {read : Except ε α} {b : β} (sound : f <$> read = .ok b) :
    ∃ a, read = .ok a ∧ f a = b := by
  cases read with
  | error fault => cases sound
  | ok a => exact ⟨a, rfl, Except.ok.inj sound⟩

private theorem error_of_map {ε α β : Type} {f : α → β} {read : Except ε α} {fault : ε}
    (faulty : f <$> read = .error fault) : read = .error fault := by
  cases read with
  | error _ => exact congrArg Except.error (Except.error.inj faulty)
  | ok a => cases faulty

private theorem exists_of_bind {ε α β : Type} {read : Except ε α} {next : α → Except ε β} {b : β}
    (sound : read >>= next = .ok b) : ∃ a, next a = .ok b := by
  cases read with
  | error fault => cases sound
  | ok a => exact ⟨a, sound⟩

private theorem error_of_bind {ε α β : Type} {read : Except ε α} {next : α → Except ε β} {fault : ε}
    (faulty : read >>= next = .error fault) : read = .error fault ∨ ∃ a, next a = .error fault := by
  cases read with
  | error _ => exact .inl (congrArg Except.error (Except.error.inj faulty))
  | ok a => exact .inr ⟨a, faulty⟩

/-- Whether a fault is one that arguments of a keyword can have. -/
def ArgumentFault.IsOf (keyword : Keyword) : ArgumentFault → Prop
  | missing => keyword = .label ∨ keyword = .jumpto ∨ keyword = .pause ∨ keyword = .nowPlaying
  | tooMany _ => keyword = .label ∨ keyword = .jumpto ∨ keyword = .pause
  | unexpected _ => keyword = .halt
  | notInteger _ | negative _ | invertedRange _ _ => keyword = .pause
  | missingPrefix _ => keyword = .firstSwitch ∨ keyword = .moodSwitch
  | missingSuffix _ => keyword = .sourceSwitch
  | wrongCount _ => keyword.isAutoswitch = true
  | noLabels => keyword.isSwitchjump = true
  | unpaired _ => keyword = .stringSwitchJump

/-- The arguments at fault. -/
def ArgumentFault.texts : ArgumentFault → List String
  | unexpected args => args
  | notInteger text | negative text | missingPrefix text | missingSuffix text => [text]
  | _ => []

namespace Directive

/-- The labels that a directive defines or spells out, and the base of a source switch. -/
def mentions : Directive → List String
  | label name | sourceSwitch name => [name]
  | directive => directive.references

theorem eq_of_single {args : List String} {arg : String} (sound : single args = .ok arg) : args = [arg] := by
  unfold single at sound
  split at sound <;> cases sound
  rfl

/-- The bounds of a pause are in order. -/
theorem exists_of_readPause {args : List String} {directive : Directive} (sound : readPause args = .ok directive) :
    ∃ min max, min ≤ max ∧ directive = .pause min max := by
  unfold readPause at sound
  split at sound
  · cases sound
  · obtain ⟨n, same⟩ := exists_of_bind sound
    exact ⟨n, n, Nat.le_refl n, (Except.ok.inj same).symm⟩
  · obtain ⟨min, rest⟩ := exists_of_bind sound
    obtain ⟨max, bounds⟩ := exists_of_bind rest
    split at bounds
    · cases bounds
    · rename_i ordered
      exact ⟨min, max, Nat.le_of_not_lt ordered, (Except.ok.inj bounds).symm⟩
  · cases sound

theorem exists_of_readSeen {make : String → Directive} {args : List String} {directive : Directive}
    (sound : readSeen make args = .ok directive) : ∃ target ∈ args, directive = make target := by
  unfold readSeen at sound
  split at sound
  · split at sound <;> cases sound
    exact ⟨_, List.mem_cons_self .., rfl⟩
  · cases sound

theorem exists_of_readSource {args : List String} {directive : Directive} (sound : readSource args = .ok directive) :
    ∃ base ∈ args, directive = .sourceSwitch base := by
  unfold readSource at sound
  split at sound
  · split at sound <;> cases sound
    exact ⟨_, List.mem_cons_self .., rfl⟩
  · cases sound

theorem exists_of_readBlade {args : List String} {directive : Directive} (sound : readBlade args = .ok directive) :
    ∃ held former never, args = [held, former, never] ∧ directive = .bladeSwitch held former never := by
  unfold readBlade at sound
  split at sound <;> cases sound
  exact ⟨_, _, _, rfl, rfl⟩

theorem eq_of_readLabels {make : List String → Directive} {args : List String} {directive : Directive}
    (sound : readLabels make args = .ok directive) : args ≠ [] ∧ directive = make args := by
  unfold readLabels at sound
  split at sound
  · cases sound
  · rename_i labelled
    cases sound
    exact ⟨by simpa using labelled, rfl⟩

theorem snd_subset_of_pairs? {args : List String} {pairs : List (String × String)} (paired : pairs? args = some pairs) :
    pairs.map (·.2) ⊆ args := by
  fun_induction pairs? args generalizing pairs with
  | case1 =>
    cases paired
    exact List.nil_subset _
  | case2 => cases paired
  | case3 value target rest ih =>
    obtain ⟨others, later, rfl⟩ := Option.map_eq_some_iff.mp paired
    exact List.cons_subset.mpr ⟨by simp, fun label listed => by simp [ih later listed]⟩

theorem exists_of_readPairs {args : List String} {directive : Directive} (sound : readPairs args = .ok directive) :
    ∃ pairs, pairs.map (·.2) ⊆ args ∧ directive = .stringSwitchJump pairs := by
  unfold readPairs at sound
  split at sound
  · cases sound
  · split at sound <;> cases sound
    exact ⟨_, snd_subset_of_pairs? ‹_›, rfl⟩

/-- A directive that is read has the keyword in front of its arguments, and what it mentions is among these. -/
theorem made_of_read {word : Keyword} {args : List String} {directive : Directive}
    (sound : read word args = .ok directive) : directive.keyword = word ∧ directive.mentions ⊆ args := by
  cases word with
  | label =>
    obtain ⟨name, read, rfl⟩ := exists_of_map sound
    exact ⟨rfl, by simp [mentions, eq_of_single read]⟩
  | jumpto =>
    obtain ⟨arg, read, rfl⟩ := exists_of_map sound
    refine ⟨rfl, ?_⟩
    rw [eq_of_single read, jumpTarget]
    split <;> simp [mentions, references]
  | halt | nowPlaying => simp only [read] at sound; split at sound <;> cases sound; exact ⟨rfl, List.nil_subset _⟩
  | pause => obtain ⟨_, _, _, rfl⟩ := exists_of_readPause sound; exact ⟨rfl, List.nil_subset _⟩
  | firstSwitch | moodSwitch =>
    obtain ⟨target, given, rfl⟩ := exists_of_readSeen sound
    exact ⟨rfl, by simpa [mentions, references] using given⟩
  | sourceSwitch =>
    obtain ⟨base, given, rfl⟩ := exists_of_readSource sound
    exact ⟨rfl, by simpa [mentions] using given⟩
  | bladeSwitch => obtain ⟨_, _, _, rfl, rfl⟩ := exists_of_readBlade sound; exact ⟨rfl, List.Subset.refl _⟩
  | switchJump | numSwitchJump => obtain ⟨_, rfl⟩ := eq_of_readLabels sound; exact ⟨rfl, List.Subset.refl _⟩
  | stringSwitchJump => obtain ⟨_, given, rfl⟩ := exists_of_readPairs sound; exact ⟨rfl, given⟩

theorem keyword_of_read {word : Keyword} {args : List String} {directive : Directive}
    (sound : read word args = .ok directive) : directive.keyword = word :=
  (made_of_read sound).1

theorem mentions_subset_of_read {word : Keyword} {args : List String} {directive : Directive}
    (sound : read word args = .ok directive) : directive.mentions ⊆ args :=
  (made_of_read sound).2

/-- A counted switch has a label to choose. -/
theorem labels_ne_nil_of_read {word : Keyword} {args labels : List String}
    (sound : read word args = .ok (numSwitchJump labels)) : labels ≠ [] := by
  cases word with
  | numSwitchJump =>
    obtain ⟨labelled, same⟩ := eq_of_readLabels sound
    cases same
    exact labelled
  | _ => cases keyword_of_read sound

/-- The bounds of a pause that is read are in order. -/
theorem le_of_read {word : Keyword} {args : List String} {min max : Nat}
    (sound : read word args = .ok (pause min max)) : min ≤ max := by
  cases word with
  | pause =>
    obtain ⟨_, _, ordered, same⟩ := exists_of_readPause sound
    cases same
    exact ordered
  | _ => cases keyword_of_read sound

section
variable {args : List String} {fault : ArgumentFault}

theorem error_of_single (faulty : single args = .error fault) :
    fault = .missing ∨ fault = .tooMany args.length := by
  unfold single at faulty
  split at faulty <;> cases faulty
  · exact .inl rfl
  · exact .inr rfl

theorem error_of_seconds {word : String} (faulty : seconds word = .error fault) :
    fault = .notInteger word ∨ fault = .negative word := by
  unfold seconds at faulty
  split at faulty
  · cases faulty
    exact .inl rfl
  · split at faulty <;> cases faulty
    exact .inr rfl

theorem fault_of_readPause (faulty : readPause args = .error fault) : fault.IsOf .pause ∧ fault.texts ⊆ args := by
  have of_seconds {word : String} (given : word ∈ args) (unread : seconds word = .error fault) :
      fault.IsOf .pause ∧ fault.texts ⊆ args := by
    rcases error_of_seconds unread with rfl | rfl <;> exact ⟨rfl, by simpa [ArgumentFault.texts] using given⟩
  unfold readPause at faulty
  split at faulty
  · cases faulty
    simp [ArgumentFault.IsOf, ArgumentFault.texts]
  · rcases error_of_bind faulty with unread | ⟨_, ⟨⟩⟩
    exact of_seconds (by simp) unread
  · rcases error_of_bind faulty with unread | ⟨min, rest⟩
    · exact of_seconds (by simp) unread
    · rcases error_of_bind rest with unread | ⟨max, bounds⟩
      · exact of_seconds (by simp) unread
      · split at bounds <;> cases bounds
        exact ⟨rfl, List.nil_subset _⟩
  · cases faulty
    simp [ArgumentFault.IsOf, ArgumentFault.texts]

theorem error_of_readSeen {make : String → Directive} (faulty : readSeen make args = .error fault) :
    (∃ target ∈ args, fault = .missingPrefix target) ∨ fault = .wrongCount args.length := by
  unfold readSeen at faulty
  split at faulty
  · split at faulty <;> cases faulty
    exact .inl ⟨_, List.mem_cons_self .., rfl⟩
  · cases faulty
    exact .inr rfl

/-- The faults that arguments can have depend on the keyword in front of them, and the texts at fault are arguments. -/
theorem fault_of_read {word : Keyword} (faulty : read word args = .error fault) :
    fault.IsOf word ∧ fault.texts ⊆ args := by
  cases word with
  | label | jumpto =>
    rcases error_of_single (error_of_map faulty) with rfl | rfl <;> simp [ArgumentFault.IsOf, ArgumentFault.texts]
  | halt | nowPlaying =>
    simp only [read] at faulty
    split at faulty <;> cases faulty
    simp [ArgumentFault.IsOf, ArgumentFault.texts]
  | pause => exact fault_of_readPause faulty
  | firstSwitch | moodSwitch =>
    rcases error_of_readSeen faulty with ⟨_, given, rfl⟩ | rfl
    · simpa [ArgumentFault.IsOf, ArgumentFault.texts] using given
    · simp [ArgumentFault.IsOf, ArgumentFault.texts, Keyword.isAutoswitch]
  | sourceSwitch =>
    simp only [read, readSource] at faulty
    split at faulty
    · split at faulty <;> cases faulty
      exact ⟨rfl, List.Subset.refl _⟩
    · cases faulty
      exact ⟨rfl, List.nil_subset _⟩
  | bladeSwitch =>
    simp only [read, readBlade] at faulty
    split at faulty <;> cases faulty
    exact ⟨rfl, List.nil_subset _⟩
  | switchJump | numSwitchJump =>
    simp only [read, readLabels] at faulty
    split at faulty <;> cases faulty
    exact ⟨rfl, List.nil_subset _⟩
  | stringSwitchJump =>
    simp only [read, readPairs] at faulty
    split at faulty
    · cases faulty
      exact ⟨rfl, List.nil_subset _⟩
    · split at faulty <;> cases faulty
      exact ⟨rfl, List.nil_subset _⟩

theorem isOf_of_read {word : Keyword} (faulty : read word args = .error fault) : fault.IsOf word :=
  (fault_of_read faulty).1

theorem texts_subset_of_read {word : Keyword} (faulty : read word args = .error fault) : fault.texts ⊆ args :=
  (fault_of_read faulty).2

end

end Directive

/-- The arguments of an entry as texts. -/
def EntryArgs.texts : EntryArgs → List String
  | absent => []
  | list values => values
  | malformed source => [source]

/-- The name of an entry and its arguments. -/
def Entry.texts (entry : Entry) : List String := entry.name :: entry.args.texts

/-- The names and arguments at fault. -/
def ModifierFault.texts : ModifierFault → List String
  | unknown text | malformed text | flagArgument text | contextCount text _ | notInteger text => [text]
  | unknownPersonas names => names
  | interruptArgument | missingVoice => []

namespace Modifier

/-- What every modifier that an entry writes satisfies: a check against voices lists one, and a number
    that is compared fits a word. -/
def Sound : Modifier → Prop
  | checkNoVoice personas => personas ≠ []
  | context (.number n) _ => Number.isWord n = true
  | _ => True

private theorem personas_ne_nil {names : List String} {listed : List Persona} (named : names ≠ [])
    (known : personas names = .ok listed) : listed ≠ [] := by
  simp only [personas, List.isEmpty_iff, List.filter_eq_nil_iff] at known
  split at known
  · rename_i every
    obtain ⟨name, rest, rfl⟩ := List.exists_cons_of_ne_nil named
    obtain ⟨persona, found⟩ : ∃ persona, Persona.ofName? name = some persona :=
      Option.ne_none_iff_exists'.mp (by simpa using every name (by simp))
    rw [← Except.ok.inj known]
    simp [found]
  · cases known

/-- The texts with which a modifier compares. -/
def texts : Modifier → List String
  | context (.source value) _ | context (.string value) _ => [value]
  | _ => []

private theorem made_of_readCheck {kind : ContextKind} {value : String} {check : ContextCheck} (negated : Bool)
    (sound : readCheck kind value = .ok check) :
    (context check negated).Sound ∧ (context check negated).texts ⊆ [value] := by
  cases kind with
  | source | string => cases sound; exact ⟨trivial, List.Subset.refl _⟩
  | number =>
    simp only [readCheck] at sound
    split at sound
    · rename_i n found
      rw [← Except.ok.inj sound]
      exact ⟨(Option.filter_eq_some_iff.mp found).2, List.nil_subset _⟩
    · cases sound

private theorem made_of_readNamed {name : String} {known : ModifierName} {args : List String} {modifier : Modifier}
    (sound : readNamed name known args = .ok modifier) : modifier.Sound ∧ modifier.texts ⊆ args := by
  cases known with
  | flag _ _ | interrupt =>
    simp only [readNamed] at sound
    split at sound <;> cases sound
    exact ⟨trivial, List.nil_subset _⟩
  | checkVoice =>
    obtain ⟨listed, _, rfl⟩ := exists_of_map sound
    exact ⟨trivial, List.nil_subset _⟩
  | checkNoVoice =>
    simp only [readNamed] at sound
    split at sound
    · cases sound
    · rename_i named
      obtain ⟨listed, known, rfl⟩ := exists_of_map sound
      exact ⟨personas_ne_nil (by simpa using named) known, List.nil_subset _⟩
  | context kind negated =>
    match args with
    | [value] =>
      obtain ⟨check, written, rfl⟩ := exists_of_map sound
      exact made_of_readCheck negated written
    | [] | _ :: _ :: _ => cases sound

private theorem made_of_readList {name : String} {args : List String} {modifier : Modifier}
    (sound : readList name args = .ok modifier) : modifier.Sound ∧ modifier.texts ⊆ args := by
  unfold readList at sound
  split at sound
  · exact made_of_readNamed sound
  · cases sound

/-- Every modifier that an entry writes is sound, and the texts with which it compares are arguments of the entry. -/
theorem made_of_ofEntry {entry : Entry} {modifier : Modifier} (written : ofEntry entry = .ok modifier) :
    modifier.Sound ∧ modifier.texts ⊆ entry.args.texts := by
  unfold ofEntry at written
  split at written
  · cases written
  · rename_i absent
    rw [absent]
    exact made_of_readList written
  · rename_i values listed
    rw [listed]
    exact made_of_readList written

theorem sound_of_ofEntry {entry : Entry} {modifier : Modifier} (written : ofEntry entry = .ok modifier) :
    modifier.Sound :=
  (made_of_ofEntry written).1

section
variable {name : String} {args : List String} {fault : ModifierFault}

private theorem texts_of_personas (faulty : personas args = .error fault) : fault.texts ⊆ args := by
  simp only [personas] at faulty
  split at faulty <;> cases faulty
  exact List.filter_sublist.subset

private theorem texts_of_readNamed {known : ModifierName} (faulty : readNamed name known args = .error fault) :
    fault.texts ⊆ name :: args := by
  cases known with
  | flag _ _ | interrupt =>
    simp only [readNamed] at faulty
    split at faulty <;> cases faulty
    simp [ModifierFault.texts]
  | checkVoice => exact List.subset_cons_of_subset _ (texts_of_personas (error_of_map faulty))
  | checkNoVoice =>
    simp only [readNamed] at faulty
    split at faulty
    · cases faulty
      exact List.nil_subset _
    · exact List.subset_cons_of_subset _ (texts_of_personas (error_of_map faulty))
  | context kind negated =>
    match args with
    | [value] =>
      have unread := error_of_map faulty
      cases kind with
      | source | string => cases unread
      | number =>
        simp only [readCheck] at unread
        split at unread <;> cases unread
        simp [ModifierFault.texts]
    | [] | _ :: _ :: _ =>
      cases faulty
      simp [ModifierFault.texts]

private theorem texts_of_readList (faulty : readList name args = .error fault) : fault.texts ⊆ name :: args := by
  unfold readList at faulty
  split at faulty
  · exact texts_of_readNamed faulty
  · cases faulty
    simp [ModifierFault.texts]

end

/-- What is at fault with an entry is its name or among its arguments. -/
theorem texts_subset_of_ofEntry {entry : Entry} {fault : ModifierFault} (faulty : ofEntry entry = .error fault) :
    fault.texts ⊆ entry.texts := by
  unfold ofEntry at faulty
  rw [Entry.texts]
  split at faulty
  · rename_i source malformed
    cases faulty
    simp [malformed, EntryArgs.texts, ModifierFault.texts]
  · rename_i absent
    rw [absent]
    exact texts_of_readList faulty
  · rename_i values listed
    rw [listed]
    exact texts_of_readList faulty

end Modifier
end Narrative
