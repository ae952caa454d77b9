import Narrative.Proofs.Menu.Decision

/-!
The numbers of a menu. The available options are shown under the numbers from 1 on, in the order of the
menu, and the other options that are shown carry none (`filter_number_shownFrom`). A call for a number
returns the option that is shown with it unless its count is full (`ask_eq_some_iff`), and a menu that waits
for input keeps the numbers on the screen until one of them is entered (`await_of_number`).
-/
namespace Narrative
namespace Menu

/-- What a call for the option with a number returns, and the menu after it. A call that is refused or stops the
    program returns nothing and leaves the menu as it was. -/
def ask (m : Menu) (number : Int) (ctx : Option Context) : Option String × Menu :=
  match m.choose number ctx with
  | .counted id after => (some id, after)
  | .refused | .overflow => (none, m)

/-- An option is shown with a number and under an id. -/
def ShowsAs (m : Menu) (ctx : Option Context) (number : Int) (id : String) : Prop :=
  ∃ s ∈ m.shown ctx, s.id = id ∧ s.number.map Int.ofNat = some number

section
variable (m : Menu) (ctx : Option Context)

theorem map_shownFrom (count : Nat) (choices : List Choice) :
    ((m.shownFrom ctx count choices).map fun s => (s.id, s.text, s.number.isNone)) =
      (choices.filter fun c => m.appearance ctx c != .hidden).map fun c =>
        (c.id, c.text ctx, m.appearance ctx c == .greyed) := by
  induction choices generalizing count with
  | nil => rfl
  | cons c rest ih =>
    rw [shownFrom]
    cases look : m.appearance ctx c with
    | hidden => simp [look, ih]
    | greyed => simp [look, ih]
    | available => simp [look, ih]

/-- The options that carry a number are the available ones, each with its place among them. -/
theorem filter_number_shownFrom (count : Nat) (choices : List Choice) :
    (m.shownFrom ctx count choices).filter (·.number.isSome) =
      ((choices.filter fun c => m.appearance ctx c == .available).zipIdx (count + 1)).map fun numbered =>
        ⟨numbered.1.id, some numbered.2, numbered.1.text ctx⟩ := by
  induction choices generalizing count with
  | nil => rfl
  | cons c rest ih =>
    rw [shownFrom]
    cases look : m.appearance ctx c with
    | hidden => simp [look, ih]
    | greyed => simp [look, ih]
    | available => simp [look, ih]

variable {m ctx} in
/-- The options that are not hidden are those that are not exhausted, may be shown, and wait for no other. -/
theorem appearance_ne_hidden_iff {c : Choice} :
    m.appearance ctx c ≠ .hidden ↔ c.isExhausted = false ∧ c.visibility.holds ctx = true ∧ m.isLocked c = false := by
  cases spent : c.isExhausted <;> cases seen : c.visibility.holds ctx <;> cases locked : m.isLocked c <;>
    cases greyed : c.isGreyed ctx <;> simp [appearance, spent, seen, locked, greyed]

theorem exists_of_mem_shown {s : ShownChoice} (member : s ∈ m.shown ctx) :
    ∃ c ∈ m.choices, s.id = c.id ∧ m.appearance ctx c ≠ .hidden := by
  have listed : (s.id, s.text, s.number.isNone) ∈
      (m.choices.filter fun c => m.appearance ctx c != .hidden).map fun c =>
        (c.id, c.text ctx, m.appearance ctx c == .greyed) := by
    rw [← m.map_shownFrom ctx 0]
    exact List.mem_map_of_mem member
  obtain ⟨c, kept, same⟩ := List.mem_map.mp listed
  obtain ⟨here, visible⟩ := List.mem_filter.mp kept
  exact ⟨c, here, (Prod.mk.inj same).1.symm, by simpa using visible⟩

private theorem numbers_shown : (m.shown ctx).filterMap (·.number) = List.range' 1 (m.available ctx).length := by
  have numbered : (m.shown ctx).filterMap (·.number) =
      ((m.shown ctx).filter (·.number.isSome)).filterMap (·.number) := by
    rw [List.filterMap_filter]
    congr 1
    funext s
    cases s.number <;> rfl
  rw [numbered, shown, filter_number_shownFrom, List.filterMap_map]
  simp [available]

theorem mem_shown_numbered_iff {s : ShownChoice} :
    (s ∈ m.shown ctx ∧ s.number.isSome = true) ↔
      ∃ (place : Nat) (c : Choice), (m.available ctx)[place]? = some c ∧ ⟨c.id, some (place + 1), c.text ctx⟩ = s := by
  have kept : (m.shown ctx).filter (·.number.isSome) = ((m.available ctx).zipIdx 1).map fun numbered =>
      ⟨numbered.1.id, some numbered.2, numbered.1.text ctx⟩ := m.filter_number_shownFrom ctx 0 m.choices
  have member : s ∈ (m.shown ctx).filter (·.number.isSome) ↔ s ∈ m.shown ctx ∧ s.number.isSome = true :=
    List.mem_filter
  rw [← member, kept, List.mem_iff_getElem?]
  simp only [List.getElem?_map, List.getElem?_zipIdx, Option.map_map, Option.map_eq_some_iff, Function.comp_apply,
    Nat.add_comm 1]

/-- An option is shown with a number exactly where it has that place among the available ones. -/
theorem showsAs_iff {number : Int} {id : String} :
    m.ShowsAs ctx number id ↔
      ∃ (place : Nat) (c : Choice), number = (place : Int) + 1 ∧ (m.available ctx)[place]? = some c ∧ c.id = id := by
  constructor
  · rintro ⟨s, member, named, numbered⟩
    obtain ⟨n, carried, rfl⟩ := Option.map_eq_some_iff.mp numbered
    obtain ⟨place, c, here, rfl⟩ := (m.mem_shown_numbered_iff ctx).mp ⟨member, by simp [carried]⟩
    cases carried
    exact ⟨place, c, rfl, here, named⟩
  · rintro ⟨place, c, rfl, here, named⟩
    have member := ((m.mem_shown_numbered_iff ctx).mpr ⟨place, c, here, rfl⟩).1
    exact ⟨_, member, named, rfl⟩

/-- What comes of a call for a number, and why. -/
inductive Answers (m : Menu) (ctx : Option Context) : Int → Pick → Prop where
  /-- An available option has the number, and counts a pick. -/
  | counted {place : Nat} {c : Choice} {after : Menu} (here : (m.available ctx)[place]? = some c)
      (room : m.picksOf c.id ≠ 0xFFFFFFFF) (counts : m.Counts c.id after) :
      Answers m ctx (place + 1) (.counted c.id after)
  /-- The count of its id is full. -/
  | overflow {place : Nat} {c : Choice} (here : (m.available ctx)[place]? = some c)
      (full : m.picksOf c.id = 0xFFFFFFFF) : Answers m ctx (place + 1) .overflow
  | refused {number : Int} (outside : number < 1 ∨ (m.available ctx).length < number) : Answers m ctx number .refused

theorem answers_choose (number : Int) : m.Answers ctx number (m.choose number ctx) := by
  rcases m.choose_cases ctx number with ⟨place, c, rfl, here⟩ | ⟨outside, refused⟩
  · rw [choose_of_place here]
    rcases counting?_cases (mem_of_place here) with ⟨room, after, counted, counts⟩ | ⟨full, stopped⟩
    · rw [counted]
      exact .counted here room counts
    · rw [stopped]
      exact .overflow here full
  · rw [refused]
    exact .refused outside

/-- A call that returns an id has counted a pick of an available option with the id; any other changes nothing. -/
theorem ask_cases (number : Int) :
    (∃ (place : Nat) (c : Choice) (after : Menu), number = (place : Int) + 1 ∧ (m.available ctx)[place]? = some c ∧
        m.picksOf c.id ≠ 0xFFFFFFFF ∧ m.Counts c.id after ∧ m.ask number ctx = (some c.id, after)) ∨
      m.ask number ctx = (none, m) := by
  have answers := m.answers_choose ctx number
  rw [ask]
  generalize m.choose number ctx = pick at answers
  cases answers with
  | counted here room counts => exact .inl ⟨_, _, _, rfl, here, room, counts, rfl⟩
  | overflow here full => exact .inr rfl
  | refused outside => exact .inr rfl

/-- A call returns the id that is shown with its number, unless the count of the id is full. -/
theorem ask_eq_some_iff {number : Int} {id : String} :
    (m.ask number ctx).1 = some id ↔ m.ShowsAs ctx number id ∧ m.picksOf id ≠ 0xFFFFFFFF := by
  rw [showsAs_iff]
  constructor
  · intro returned
    rcases m.ask_cases ctx number with ⟨place, c, after, placed, here, room, _, asked⟩ | asked
    · rw [asked] at returned
      obtain rfl := Option.some.inj returned
      exact ⟨⟨place, c, placed, here, rfl⟩, room⟩
    · rw [asked] at returned
      cases returned
  · rintro ⟨⟨place, c, rfl, here, rfl⟩, room⟩
    obtain ⟨after, counted, _⟩ := exists_counts (mem_of_place here) room
    rw [ask, choose_of_place here, counted]
    rfl

/-- A call stops the program just where the count of the id that is shown with its number is full. -/
theorem choose_eq_overflow_iff {number : Int} :
    m.choose number ctx = .overflow ↔ ∃ id, m.ShowsAs ctx number id ∧ m.picksOf id = 0xFFFFFFFF := by
  constructor
  · intro stopped
    have answers := m.answers_choose ctx number
    rw [stopped] at answers
    cases answers with
    | overflow here full => exact ⟨_, (m.showsAs_iff ctx).mpr ⟨_, _, rfl, here, rfl⟩, full⟩
  · rintro ⟨id, shows, full⟩
    obtain ⟨place, c, rfl, here, rfl⟩ := (m.showsAs_iff ctx).mp shows
    rcases counting?_cases (mem_of_place here) with ⟨room, _⟩ | ⟨_, stopped⟩
    · exact absurd full room
    · rw [choose_of_place here, stopped]
      rfl

/-- A call is refused just where no available option has its number. -/
theorem choose_ne_refused_iff {number : Int} :
    m.choose number ctx ≠ .refused ↔ 1 ≤ number ∧ number ≤ (m.available ctx).length := by
  have answers := m.answers_choose ctx number
  generalize m.choose number ctx = pick at answers
  cases answers with
  | counted here | overflow here =>
    have inside := (List.getElem?_eq_some_iff.mp here).1
    simp only [ne_eq, reduceCtorEq, not_false_eq_true, true_iff]
    omega
  | refused outside =>
    simp only [ne_eq, not_true_eq_false, false_iff]
    omega

theorem menu_of_refused {number : Int} (refused : (m.ask number ctx).1 = none) : (m.ask number ctx).2 = m := by
  rcases m.ask_cases ctx number with ⟨place, c, after, _, _, _, _, asked⟩ | asked
  · rw [asked] at refused
    cases refused
  · rw [asked]

end

section
variable {m : Menu} {style : MenuStyle} {ctx : Option Context} {scene : Affordances} {preferences : Preferences}

/-- What comes of reading lines: an option only by a number that is shown with it, and then the rest is not read;
    otherwise the menu stays as it was. -/
inductive ByNumber (m : Menu) (ctx : Option Context) (lines : List String) (resolution : Resolution) : Prop where
  | chosen {earlier : List String} {line : String} {number : Int} {id : String}
      (split : lines = earlier ++ line :: resolution.unread) (entered : Number.integer? (Text.trim line) = some number)
      (shows : m.ShowsAs ctx number id) (result : resolution.result = .ok (.option id))
      (menu : resolution.menu = (m.ask number ctx).2) : ByNumber m ctx lines resolution
  | other (result : ∀ id, resolution.result ≠ .ok (.option id)) (menu : resolution.menu = m) :
      ByNumber m ctx lines resolution

theorem ByNumber.cons {line : String} {rest : List String} {resolution : Resolution}
    (settled : m.ByNumber ctx rest resolution) : m.ByNumber ctx (line :: rest) resolution := by
  cases settled with
  | @chosen earlier decisive number id split entered shows result menu =>
    have longer : line :: rest = (line :: earlier) ++ decisive :: resolution.unread := by rw [split, List.cons_append]
    exact .chosen longer entered shows result menu
  | other result menu => exact .other result menu

variable [Likeness]

private theorem showsAs_of_decides {line : String} {c : Choice} (decides : m.Decides ctx line (.option c)) :
    ∃ number, Number.integer? (Text.trim line) = some number ∧ m.ShowsAs ctx number c.id ∧
      (Decision.option c).menu m = (m.ask number ctx).2 := by
  cases decides with
  | @option place _ entered here =>
    refine ⟨(place : Int) + 1, by simpa using entered, (m.showsAs_iff ctx).mpr ⟨place, c, rfl, here, rfl⟩, ?_⟩
    rw [ask, choose_of_place here, Decision.menu]
    cases m.counting? c.id <;> rfl

private theorem decides_of_showsAs {line : String} {number : Int} {id : String}
    (entered : Number.integer? (Text.trim line) = some number) (shows : m.ShowsAs ctx number id) :
    ∃ c, c.id = id ∧ m.Decides ctx line (.option c) := by
  obtain ⟨place, c, rfl, here, named⟩ := (m.showsAs_iff ctx).mp shows
  exact ⟨c, named, .option (by simpa using entered) here⟩

/-- A line either passes, whatever follows it, or settles what comes of the menu. -/
private theorem await_cons_cases (line : String) (terminal : Terminal) :
    (∃ next, ∀ rest, m.await style ctx scene preferences (line :: rest) terminal =
        m.await style ctx scene preferences rest next) ∨
      ∀ rest, m.ByNumber ctx (line :: rest) (m.await style ctx scene preferences (line :: rest) terminal) ∧
        (m.await style ctx scene preferences (line :: rest) terminal).result ≠ .error .inputClosed := by
  cases m.takes style ctx scene preferences line terminal with
  | unasked taken =>
    refine .inr fun rest => ?_
    rw [taken]
    exact ⟨.other (by simp) rfl, by simp⟩
  | untold asked passes taken =>
    refine .inr fun rest => ?_
    rw [taken]
    exact ⟨.other (by simp) rfl, by simp⟩
  | passed next passes taken => exact .inl ⟨next, taken⟩
  | @decided asked decision decides taken =>
    refine .inr fun rest => ?_
    rw [taken]
    rcases decision.result_cases m scene with result | ⟨choice, rfl, kept, result⟩
    · have settled : (decision.resolution m scene preferences rest asked).result ≠ .error .inputClosed := by
        rw [Decision.resolution, result]
        split <;> simp
      refine ⟨?_, settled⟩
      cases decision with
      | option c =>
        obtain ⟨number, entered, shows, menu⟩ := showsAs_of_decides decides
        have split : line :: rest = [] ++ line :: rest := rfl
        exact .chosen split entered shows result menu
      | aboutGame request =>
        refine .other (fun id => ?_) rfl
        rcases Preferences.outcome_cases request with outcome | outcome <;>
          simp only [Decision.resolution, result, Decision.outcome, outcome] <;> split <;> simp
      | aboutStory request story => exact .other (fun id => by simp [Decision.resolution, Decision.response,
          Terminal.writeAll, result, Decision.outcome, Affordances.outcome]) rfl
    · have stopped : (Decision.resolution m scene preferences rest asked (.option choice)).result = .error .overflow :=
        result
      exact ⟨.other (by simp [stopped]) kept, by simp [stopped]⟩

/-- In front of any lines and on any terminal, an option comes of a menu only by a number that is shown with it. -/
theorem await_numbered (lines : List String) (terminal : Terminal) :
    m.ByNumber ctx lines (m.await style ctx scene preferences lines terminal) := by
  induction lines generalizing terminal with
  | nil =>
    rw [await]
    split
    · exact .other (by simp) rfl
    · exact .other (by simp) rfl
  | cons line rest ih =>
    -- The menu itself is the same after a line that passes, so its numbers are too.
    rcases await_cons_cases line terminal with ⟨next, passes⟩ | settles
    · rw [passes]
      exact (ih next).cons
    · exact (settles rest).1

/-- Where a menu still waits after some lines, a number that it shows chooses the option with that number, unless the
    count of the option is full. -/
theorem await_of_number {earlier : List String} {terminal : Terminal}
    (waiting : (m.await style ctx scene preferences earlier terminal).result = .error .inputClosed)
    {line : String} {number : Int} {id : String} (entered : Number.integer? (Text.trim line) = some number)
    (shows : m.ShowsAs ctx number id) (room : m.picksOf id ≠ 0xFFFFFFFF) (later : List String) :
    (m.await style ctx scene preferences (earlier ++ line :: later) terminal).result = .ok (.option id) := by
  induction earlier generalizing terminal with
  | nil =>
    obtain ⟨c, rfl, decides⟩ := decides_of_showsAs entered shows
    rw [await] at waiting
    split at waiting
    · simp at waiting
    · rename_i asked prompted
      rw [List.nil_append, await_of_decides prompted decides]
      exact result_of_room decides room scene
  | cons other rest ih =>
    rcases await_cons_cases other terminal with ⟨next, passes⟩ | settles
    · rw [passes] at waiting
      rw [List.cons_append, passes]
      exact ih waiting
    · exact absurd waiting (settles rest).2

/-- A menu either writes its options and then reads lines, or ends before it reads any. -/
private theorem resolve_cases (m : Menu) (style : MenuStyle) (ctx : Option Context) (scene : Affordances)
    (preferences : Preferences) (terminal : Terminal) :
    (∃ written, ∀ lines, m.resolve style ctx scene preferences lines terminal =
        m.await style (m.view ctx) scene preferences lines written) ∨
      ∀ lines, m.ByNumber (m.view ctx) lines (m.resolve style ctx scene preferences lines terminal) ∧
        (m.resolve style ctx scene preferences lines terminal).result ≠ .error .inputClosed := by
  rcases m.resolve_begins style ctx scene preferences terminal with begins | ⟨fault, after, stays, ends⟩
  · exact .inl begins
  · refine .inr fun lines => ?_
    rw [ends]
    exact ⟨.other (by simp) rfl, by simpa using stays⟩

end

/-- What the numbers of a menu mean where it is looked at in a context. -/
structure Numbering (m : Menu) (ctx : Option Context) : Prop where
  /-- The options that are not hidden are shown in the order of the menu, just the greyed ones without a number. -/
  shown : ((m.shown ctx).map fun s => (s.id, s.text, s.number.isNone)) =
    (m.choices.filter fun c => m.appearance ctx c != .hidden).map fun c =>
      (c.id, c.text ctx, m.appearance ctx c == .greyed)
  /-- The numbers run from 1 to the number of available options. -/
  numbers : (m.shown ctx).filterMap (·.number) = List.range' 1 (m.available ctx).length
  /-- A call for one of them, and for nothing else, is not refused. -/
  answered : ∀ number : Int, m.choose number ctx ≠ .refused ↔ 1 ≤ number ∧ number ≤ (m.available ctx).length
  /-- It returns the id that is shown with the number, unless the count of the id is full. -/
  chosen : ∀ number id, (m.ask number ctx).1 = some id ↔ m.ShowsAs ctx number id ∧ m.picksOf id ≠ 0xFFFFFFFF
  /-- Just then it stops the program. -/
  stopped : ∀ number, m.choose number ctx = .overflow ↔ ∃ id, m.ShowsAs ctx number id ∧ m.picksOf id = 0xFFFFFFFF
  /-- A call that returns nothing changes nothing. -/
  refused : ∀ number, (m.ask number ctx).1 = none → (m.ask number ctx).2 = m

/-- Where the count of an id has room, a call returns the id just for the number that is shown with it. -/
theorem ask_eq_some_iff_of_countable {m : Menu} (countable : ∀ c ∈ m.choices, c.picks.toNat < 0xFFFFFFFF)
    (ctx : Option Context) (number : Int) :
    ((m.ask number ctx).1.isSome = true ↔ 1 ≤ number ∧ number ≤ (m.available ctx).length) ∧
      ∀ id, (m.ask number ctx).1 = some id ↔ m.ShowsAs ctx number id := by
  have room : ∀ id, m.picksOf id ≠ 0xFFFFFFFF := picksOf_ne_of_countable countable
  have exact_id : ∀ id, (m.ask number ctx).1 = some id ↔ m.ShowsAs ctx number id := by
    intro id
    rw [ask_eq_some_iff, and_iff_left (room id)]
  refine ⟨?_, exact_id⟩
  rw [← choose_ne_refused_iff, Option.isSome_iff_exists]
  simp only [exact_id]
  have answers := m.answers_choose ctx number
  generalize m.choose number ctx = pick at answers
  cases answers with
  | counted here => simpa using ⟨_, (m.showsAs_iff ctx).mpr ⟨_, _, rfl, here, rfl⟩⟩
  | overflow here full => exact absurd full (room _)
  | refused outside =>
    simp only [ne_eq, not_true_eq_false, iff_false, not_exists]
    intro id shows
    obtain ⟨place, c, rfl, here, _⟩ := (m.showsAs_iff ctx).mp shows
    have inside := (List.getElem?_eq_some_iff.mp here).1
    omega

/-- The numbers that a menu shows mean, for all the lines that it reads, what they mean at its start. Where no pick
    count is full, a call returns an id just for these numbers. -/
theorem numbering_exact [Likeness] (m : Menu) (ctx : Option Context) :
    m.Numbering ctx ∧
    ((∀ c ∈ m.choices, c.picks.toNat < 0xFFFFFFFF) → ∀ number,
      ((m.ask number ctx).1.isSome = true ↔ 1 ≤ number ∧ number ≤ (m.available ctx).length) ∧
        ∀ id, (m.ask number ctx).1 = some id ↔ m.ShowsAs ctx number id) ∧
    ∀ style scene preferences terminal lines,
      let resolution := m.resolve style ctx scene preferences lines terminal
      m.ByNumber (m.view ctx) lines resolution ∧
        (resolution.result = .error .inputClosed → ∀ line number id later,
          Number.integer? (Text.trim line) = some number → m.ShowsAs (m.view ctx) number id →
            m.picksOf id ≠ 0xFFFFFFFF →
              (m.resolve style ctx scene preferences (lines ++ line :: later) terminal).result = .ok (.option id)) := by
  have means : m.Numbering ctx :=
    { shown := m.map_shownFrom ctx 0 m.choices
      numbers := m.numbers_shown ctx
      answered := fun _ => m.choose_ne_refused_iff ctx
      chosen := fun _ _ => m.ask_eq_some_iff ctx
      stopped := fun _ => m.choose_eq_overflow_iff ctx
      refused := fun _ => m.menu_of_refused ctx }
  refine ⟨means, fun countable number => ask_eq_some_iff_of_countable countable ctx number, ?_⟩
  intro style scene preferences terminal lines resolution
  rcases m.resolve_cases style ctx scene preferences terminal with ⟨written, waits⟩ | settles
  · have resolved : resolution = m.await style (m.view ctx) scene preferences lines written := waits lines
    refine ⟨by rw [resolved]; exact await_numbered lines written, ?_⟩
    intro waiting line number id later entered shows room
    rw [waits]
    exact await_of_number (resolved ▸ waiting) entered shows room later
  · exact ⟨(settles lines).1, fun waiting => absurd waiting (settles lines).2⟩

end Menu
end Narrative
