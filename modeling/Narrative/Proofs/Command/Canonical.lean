import Narrative.Proofs.Command.Numerals
import Narrative.Shell.Likeness

/-!
The canonical forms of requests. The words that call commands, the directions and the keywords of the gallery are single
words in lower case, none of which stands in the way of another (`verb_in_front`, `keyword_alone`), and the canonical
form of an argument is its own (`accept?_of_accept?`). So an input with a verb in front is read by what follows the verb
(`read_verb`), and one without a verb by all of it (`read_bare_iff`). A request is what its canonical form writes, with
or without a verb, and in whatever case and spacing (`canonical_retraction`).
-/
namespace Narrative

namespace Command

theorem canonical_canonical (c : Command) : c.canonical.canonical = c.canonical := by cases c <;> rfl

theorem name_mem_verbs (c : Command) : c.name ∈ c.canonical.row.verbs := by cases c <;> decide

/-- The arguments that a command accepts, in all their forms. -/
def accepted (c : Command) : List String :=
  match c.row.arguments with
  | .groups groups => groups.flatten
  | .commandName => blank :: allVerbs

theorem mem_verbs {word : String} {c : Command} (called : ofVerb? word = some c) : word ∈ c.row.verbs := by
  simpa using List.find?_some called

theorem mem_accepted {c : Command} {argument form : String} (accepts : c.accept? argument = some form) :
    argument ∈ c.accepted := by
  cases shape : c.row.arguments with
  | groups groups =>
    simp only [accept?, shape] at accepts
    obtain ⟨group, found, _⟩ := Option.map_eq_some_iff.mp accepts
    have inside : argument ∈ group := by simpa using List.find?_some found
    simpa only [accepted, shape] using List.mem_flatten.mpr ⟨group, List.mem_of_find?_eq_some found, inside⟩
  | commandName =>
    simp only [accept?, shape] at accepts
    simp only [accepted, shape]
    split at accepts
    · rename_i empty
      rw [String.isEmpty_iff.mp empty]
      exact List.mem_cons_self ..
    · obtain ⟨target, called, _⟩ := Option.map_eq_some_iff.mp accepts
      exact List.mem_cons_of_mem _ (List.mem_flatMap.mpr ⟨target, Enumerated.mem_all target, mem_verbs called⟩)

/-- The canonical form of an argument is in normal form, and its own canonical form. -/
theorem accept?_of_accept? {c : Command} {argument form : String} (accepts : c.accept? argument = some form) :
    Text.normal form = form ∧ c.canonical.accept? form = some form := by
  have every : ∀ c ∈ (Enumerated.all : List Command), ∀ argument ∈ c.accepted, ∀ form ∈ c.accept? argument,
      Text.normal form = form ∧ c.canonical.accept? form = some form := by
    decide +kernel
  exact every c (Enumerated.mem_all c) argument (mem_accepted accepts) form accepts

/-- With the verb, the gallery accepts its keywords, and nothing besides. -/
theorem accept?_gallery {argument : String} (filled : argument ≠ "") :
    gallery.accept? argument = directGallery.accept? argument := by
  have other : [blank].contains argument = false := by simpa [blank] using filled
  simp only [accept?, row, List.find?_cons, other]

end Command

namespace Request

/-- A word that calls a command is a word in lower case, which begins no command without a verb. -/
theorem verb_in_front (c : Command) : ∀ verb ∈ c.row.verbs, Text.words verb = [verb] ∧ Text.lower verb = verb ∧
    bareCommand? verb = none ∧ Command.ofVerb? verb = some c := by
  cases c <;> decide +kernel

/-- What a command without a verb accepts is a word in lower case, which begins that command. -/
theorem keyword_alone {c : Command} (bare : c = .directGo ∨ c = .directGallery) :
    c.row.verbs = [] ∧ ∀ keyword ∈ c.accepted, Text.words keyword = [keyword] ∧ Text.lower keyword = keyword ∧
      bareCommand? keyword = some c := by
  rcases bare with rfl | rfl <;> decide +kernel

section
variable [Likeness]

/-- An input that calls a command in canonical form with an argument in canonical form. -/
def Calls (input : String) (command : Command) (argument : String) : Prop :=
  ∃ request, read input = .ok request ∧ request.canonical = command ∧ request.argument = argument

omit [Likeness] in
theorem make_eq_ok_iff {command : Command} {argument : String} {request : Request} :
    make command argument = .ok request ↔
      request.command = command ∧ command.accept? argument = some request.argument := by
  unfold make
  cases accepts : command.accept? argument with
  | none => simp
  | some form =>
    constructor
    · intro made
      cases made
      exact ⟨rfl, rfl⟩
    · rintro ⟨same, form_eq⟩
      cases request
      cases same
      cases form_eq
      rfl

/-- A request is written by the whole of an input, or after a word that calls its command. -/
theorem cases_of_read {input : String} {request : Request} (written : read input = .ok request) :
    request.command.accept? (Text.normal input) = some request.argument ∨
      ∃ verb argument, Command.ofVerb? verb = some request.command ∧
        request.command.accept? argument = some request.argument := by
  unfold Text.normal
  rw [read] at written
  cases words : Text.words (Text.lower input) with
  | nil =>
    rw [words] at written
    cases written
  | cons verb rest =>
    simp only [words, ofWords] at written
    split at written
    · obtain ⟨rfl, accepts⟩ := make_eq_ok_iff.mp written
      exact .inl accepts
    · split at written
      · rename_i called
        obtain ⟨rfl, accepts⟩ := make_eq_ok_iff.mp written
        exact .inr ⟨verb, _, called, accepts⟩
      · cases written

theorem exists_accept?_of_read {input : String} {request : Request} (written : read input = .ok request) :
    ∃ argument, request.command.accept? argument = some request.argument := by
  rcases cases_of_read written with accepts | ⟨_, argument, _, accepts⟩
  · exact ⟨_, accepts⟩
  · exact ⟨argument, accepts⟩

theorem read_normal (input : String) : read (Text.normal input) = read input := by
  rw [read, Text.words_lower_normal, read]

theorem read_verb {c : Command} {verb : String} (called : verb ∈ c.row.verbs) (input : String) :
    read (verb ++ " " ++ input) = make c (Text.normal input) := by
  obtain ⟨word, lower, plain, calls⟩ := verb_in_front c verb called
  have words : Text.words (Text.lower (verb ++ " " ++ input)) = verb :: Text.words (Text.lower input) := by
    rw [Text.words_lower, Text.words_append_blank, word, List.singleton_append, List.map_cons, lower, Text.words_lower]
  rw [read, words]
  simp only [ofWords, plain, calls]
  rfl

theorem calls_verb_iff {c : Command} (canonical : c.canonical = c) {verb : String} (called : verb ∈ c.row.verbs)
    {input argument : String} :
    Calls (verb ++ " " ++ input) c argument ↔ c.accept? (Text.normal input) = some argument := by
  unfold Calls
  rw [read_verb called]
  constructor
  · rintro ⟨request, made, _, rfl⟩
    exact (make_eq_ok_iff.mp made).2
  · intro accepts
    exact ⟨⟨c, argument⟩, make_eq_ok_iff.mpr ⟨rfl, accepts⟩, canonical, rfl⟩

theorem read_bare_iff {c : Command} (bare : c = .directGo ∨ c = .directGallery) {input argument : String} :
    read input = .ok ⟨c, argument⟩ ↔ c.accept? (Text.normal input) = some argument := by
  obtain ⟨verbless, alone⟩ := keyword_alone bare
  constructor
  · intro written
    rcases cases_of_read written with accepts | ⟨verb, _, called, _⟩
    · exact accepts
    · have listed := Command.mem_verbs called
      simp [verbless] at listed
  · intro accepts
    -- What is accepted is a single word, so the input has no other.
    obtain ⟨word, lower, begins⟩ := alone _ (Command.mem_accepted accepts)
    rw [← read_normal, read, Text.words_lower, word, List.map_singleton, lower]
    simp only [ofWords, begins, String.intercalate_singleton]
    exact make_eq_ok_iff.mpr ⟨rfl, accepts⟩

end

/-- An input is read like its normal form. If it writes a request, the name of the command and the argument, with a
    blank between them, call the same command with the same argument. Behind a verb of movement it calls a direction
    exactly if it is read as this direction alone, and behind the verb of the gallery, unless it is blank, it calls a
    keyword exactly if it is read as this keyword alone. -/
theorem canonical_retraction [Likeness] (input : String) :
    (∀ request, read input = .ok request →
      Calls (request.command.name ++ " " ++ request.argument) request.canonical request.argument) ∧
    (∀ verb ∈ Command.go.row.verbs, ∀ argument,
      Calls (verb ++ " " ++ input) .go argument ↔ read input = .ok ⟨.directGo, argument⟩) ∧
    (Text.trim input ≠ "" → ∀ verb ∈ Command.gallery.row.verbs, ∀ argument,
      Calls (verb ++ " " ++ input) .gallery argument ↔ read input = .ok ⟨.directGallery, argument⟩) ∧
    read (Text.normal input) = read input := by
  refine ⟨?_, ?_, ?_, read_normal input⟩
  · intro request written
    obtain ⟨argument, accepts⟩ := exists_accept?_of_read written
    obtain ⟨normal, again⟩ := Command.accept?_of_accept? accepts
    rw [canonical,
      calls_verb_iff (Command.canonical_canonical request.command) (Command.name_mem_verbs request.command), normal]
    exact again
  · intro verb called argument
    rw [calls_verb_iff rfl called, read_bare_iff (.inl rfl)]
    rfl
  · intro filled verb called argument
    have some_word : Text.normal input ≠ "" := Text.normal_ne_empty filled
    rw [calls_verb_iff rfl called, read_bare_iff (.inr rfl), Command.accept?_gallery some_word]

/-- A keyword of the gallery, in capitals and between blanks, is no direction. -/
theorem canonical_retraction_of_previous :
    read " PREVIOUS " = .ok ⟨.directGallery, "prev"⟩ ∧ Calls ("gallery" ++ " " ++ "prev") .gallery "prev" ∧
      Calls ("gallery" ++ " " ++ " PREVIOUS ") .gallery "prev" ∧ ¬ Calls ("walk" ++ " " ++ " PREVIOUS ") .go "prev" ∧
      read (Text.normal " PREVIOUS ") = .ok ⟨.directGallery, "prev"⟩ := by
  have written : read " PREVIOUS " = .ok ⟨.directGallery, "prev"⟩ := by decide +kernel
  obtain ⟨again, directions, keywords, normal⟩ := canonical_retraction " PREVIOUS "
  have called := again ⟨.directGallery, "prev"⟩ written
  have filled : Text.trim " PREVIOUS " ≠ "" := by decide +kernel
  have prefixed := (keywords filled "gallery" (by decide) "prev").mpr written
  refine ⟨written, called, prefixed, ?_, normal.trans written⟩
  rw [directions "walk" (by decide) "prev", written]
  simp

end Request
end Narrative
