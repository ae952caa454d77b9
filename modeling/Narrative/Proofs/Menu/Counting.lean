import Narrative.Proofs.Menu.Numbering

/-!
What a choice counts. The option with a number has a place in its menu (`Menu.placeOf?`). Choosing it counts a pick at
one place and changes nothing else (`Menu.CountsAt`), but this is the place of the first option with its id
(`Counts.countsAt_findIdx`), so the pick is the option's own exactly where no option before it has its id
(`choose_counts`), whether that option is shown or not.
-/
namespace Narrative
namespace Menu

/-- The available options in order, each with its place in the menu. -/
def placed (m : Menu) (ctx : Option Context) : List (Choice × Nat) :=
  m.choices.zipIdx.filter fun pair => m.appearance ctx pair.1 == .available

/-- The place in the menu of the available option with a number. -/
def placeOf? (m : Menu) (ctx : Option Context) (number : Int) : Option Nat :=
  ((m.placed ctx)[number.toNat - 1]?).map (·.2)

/-- The option at a place has one pick more, and nothing else of the menu is different. -/
structure CountsAt (m after : Menu) (place : Nat) : Prop where
  own : ∃ (c : Choice) (count : UInt32), m.choices[place]? = some c ∧ count.toNat = c.picks.toNat + 1 ∧
    after.choices[place]? = some { c with picks := count }
  others : ∀ other, other ≠ place → after.choices[other]? = m.choices[other]?
  rest : { after with choices := m.choices } = m

theorem map_placed (m : Menu) (ctx : Option Context) : (m.placed ctx).map (·.1) = m.available ctx := by
  have choices : m.choices.zipIdx.map (·.1) = m.choices := List.zipIdx_map_fst ..
  have kept : (m.choices.zipIdx.map (·.1)).filter (fun c => m.appearance ctx c == .available) =
      (m.placed ctx).map (·.1) := List.filter_map
  rw [← kept, choices, available]

theorem exists_placeOf {m : Menu} {ctx : Option Context} {number : Int} (low : 1 ≤ number)
    (high : number ≤ (m.available ctx).length) : ∃ place choice, m.placeOf? ctx number = some place ∧
      m.choices[place]? = some choice ∧ (m.available ctx)[number.toNat - 1]? = some choice := by
  have inside : number.toNat - 1 < (m.placed ctx).length := by
    rw [← map_placed, List.length_map] at high
    omega
  have here := List.getElem?_eq_getElem inside
  generalize (m.placed ctx)[number.toNat - 1] = pair at here
  have member := (List.mem_filter.mp (List.mem_of_getElem? here)).1
  refine ⟨pair.2, pair.1, ?_, List.mem_zipIdx_iff_getElem?.mp member, ?_⟩
  · rw [placeOf?, here]
    rfl
  · rw [← map_placed, List.getElem?_map, here]
    rfl

theorem CountsAt.unique {m after : Menu} {place place' : Nat} (first : m.CountsAt after place)
    (second : m.CountsAt after place') : place = place' := by
  refine Decidable.byContradiction fun differ => ?_
  obtain ⟨c, count, before, more, now⟩ := first.own
  rw [second.others place differ, before, Option.some.injEq] at now
  have same : c.picks = count := congrArg Choice.picks now
  rw [same] at more
  omega

/-- The option at a place is the first with its id exactly if no option before it has the id. -/
theorem findIdx_id_eq_iff {choices : List Choice} {place : Nat} {choice : Choice}
    (here : choices[place]? = some choice) :
    choices.findIdx (·.id == choice.id) = place ↔
      ∀ earlier < place, ∀ other, choices[earlier]? = some other → other.id ≠ choice.id := by
  obtain ⟨inside, rfl⟩ := List.getElem?_eq_some_iff.mp here
  rw [List.findIdx_eq inside]
  constructor
  · rintro ⟨_, foreign⟩ earlier before other there
    obtain ⟨_, rfl⟩ := List.getElem?_eq_some_iff.mp there
    simpa using foreign earlier before
  · intro alone
    refine ⟨by simp, fun earlier before => ?_⟩
    have other := alone earlier before _ (List.getElem?_eq_getElem (by omega))
    simpa using other

/-- A pick is counted at the place of the first option with its id. -/
theorem Counts.countsAt_findIdx {m after : Menu} {id : String} (counts : m.Counts id after) :
    m.CountsAt after (m.choices.findIdx (·.id == id)) := by
  cases counts with
  | @first earlier later c picked split foreign named counted changed =>
    have first : m.choices.findIdx (·.id == id) = earlier.length := by
      rw [split, List.findIdx_append, if_neg (by simpa using foreign)]
      simp [List.findIdx_cons, named]
    have there : after.choices = earlier ++ picked :: later := congrArg Menu.choices changed
    obtain ⟨_, same⟩ := Choice.picked?_eq_some_iff.mp counted
    rw [first]
    constructor
    · exact ⟨c, picked.picks, by simp [split], Choice.toNat_picks_of_picked counted, by simp [there, ← same]⟩
    · intro other differ
      rw [there, split]
      rcases Nat.lt_or_gt_of_ne differ with before | behind
      · rw [List.getElem?_append_left before, List.getElem?_append_left before]
      · obtain ⟨n, rfl⟩ := Nat.exists_eq_add_of_lt behind
        simp [List.getElem?_append_right, Nat.add_assoc]
    · rw [changed]

/-- Where no pick count is full, a number that an available option carries chooses it and counts one pick at one
    place. This is the place of the option itself exactly where no option before it has its id. -/
theorem choose_counts {m : Menu} {ctx : Option Context} {number : Int}
    (countable : ∀ c ∈ m.choices, c.picks.toNat < 0xFFFFFFFF) (low : 1 ≤ number)
    (high : number ≤ (m.available ctx).length) : ∃ place choice after, m.placeOf? ctx number = some place ∧
      m.choices[place]? = some choice ∧ m.choose number ctx = .counted choice.id after ∧
      m.CountsAt after (m.choices.findIdx (·.id == choice.id)) ∧
      (m.CountsAt after place ↔
        ∀ earlier < place, ∀ other, m.choices[earlier]? = some other → other.id ≠ choice.id) := by
  obtain ⟨place, choice, placed, here, available⟩ := exists_placeOf low high
  obtain ⟨after, counted, counts⟩ :=
    exists_counts (List.mem_of_getElem? here) (picksOf_ne_of_countable countable choice.id)
  refine ⟨place, choice, after, placed, here, ?_, counts.countsAt_findIdx, ?_⟩
  · have carried : ((number.toNat - 1 : Nat) : Int) + 1 = number := by omega
    rw [← carried, choose_of_place available, counted]
    rfl
  · rw [← findIdx_id_eq_iff here]
    constructor
    · intro own
      exact counts.countsAt_findIdx.unique own
    · intro first
      exact first ▸ counts.countsAt_findIdx

theorem choose_counts_of_window :
    let m : Menu := { choices := [{ id := "door", template := "A.", visibility := .fixed false },
      { id := "door", template := "B.", maxPicks := 1 }, { id := "window", template := "C." }] }
    (∀ c ∈ m.choices, c.picks.toNat < 0xFFFFFFFF) ∧ (m.available none).length = 2 ∧ m.placeOf? none 2 = some 2 ∧
      ∃ after, m.choose 2 none = .counted "window" after ∧ m.CountsAt after 2 := by
  intro m
  have facts : (∀ c ∈ m.choices, c.picks.toNat < 0xFFFFFFFF) ∧ (m.available none).length = 2 ∧
      m.placeOf? none 2 = some 2 ∧ (m.choices[2]?).map (·.id) = some "window" ∧
      m.choices.findIdx (·.id == "window") = 2 := by
    decide +kernel
  obtain ⟨countable, two, placed, named, first⟩ := facts
  have high : (2 : Int) ≤ (m.available none).length := by
    rw [two]
    decide
  obtain ⟨place, choice, after, found, here, chosen, counts, _⟩ :=
    choose_counts (m := m) countable (by decide) high
  obtain rfl : 2 = place := Option.some.inj (placed.symm.trans found)
  rw [here] at named
  have window : choice.id = "window" := Option.some.inj named
  rw [window] at chosen counts
  rw [first] at counts
  exact ⟨countable, two, placed, after, chosen, counts⟩

/-- Not every choice counts on the option that is chosen: here a hidden option before it has its id. -/
theorem not_countsAt_of_doors :
    let m : Menu := { choices := [{ id := "door", template := "A.", visibility := .fixed false },
      { id := "door", template := "B.", maxPicks := 1 }] }
    (∀ c ∈ m.choices, c.picks.toNat < 0xFFFFFFFF) ∧ (m.available none).length = 1 ∧ m.placeOf? none 1 = some 1 ∧
      ∃ after, m.choose 1 none = .counted "door" after ∧ after.picks = [("door", 1), ("door", 0)] ∧
        ¬ m.CountsAt after 1 := by
  intro m
  have facts : (∀ c ∈ m.choices, c.picks.toNat < 0xFFFFFFFF) ∧ (m.available none).length = 1 ∧
      m.placeOf? none 1 = some 1 := by
    decide +kernel
  refine ⟨facts.1, facts.2.1, facts.2.2, _, rfl, rfl, ?_⟩
  intro counts
  obtain ⟨c, count, before, more, now⟩ := counts.own
  cases before
  cases now
  cases more

end Menu
end Narrative
