import Mathlib.Data.List.Basic
import Narrative.Menu.Basic

/-!
What a pick does to a menu. It is counted on the first option with its id, if the count of that option has room for it
(`Menu.counting?_cases`). Then the id has one pick more, every other id has as many as before
(`Menu.Counts.picksOf_eq`), and nothing but picks is different (`Menu.Counts.resetPicks_eq`).
-/
namespace Narrative

theorem Choice.picked?_eq_some_iff {c picked : Choice} :
    c.picked? = some picked ↔ c.picks ≠ 0xFFFFFFFF ∧ { c with picks := c.picks + 1 } = picked := by
  simp [picked?]

theorem Choice.picked?_eq_none_iff {c : Choice} : c.picked? = none ↔ c.picks = 0xFFFFFFFF := by
  simp [picked?]

/-- A count that has room for a pick is larger by one after it. -/
theorem Choice.toNat_picks_of_picked {c picked : Choice} (counted : c.picked? = some picked) :
    picked.picks.toNat = c.picks.toNat + 1 := by
  obtain ⟨room, rfl⟩ := picked?_eq_some_iff.mp counted
  have small := c.picks.toNat_lt
  rw [ne_eq, ← UInt32.toNat_inj] at room
  simp only [UInt32.reduceToNat] at room
  rw [UInt32.toNat_add, UInt32.toNat_one]
  exact Nat.mod_eq_of_lt (by omega)

namespace Menu

/-- A menu before and after a pick of an id: the first option with the id has counted it. -/
inductive Counts (m : Menu) (id : String) (after : Menu) : Prop where
  | first {earlier later : List Choice} {c picked : Choice} (split : m.choices = earlier ++ c :: later)
      (foreign : ∀ other ∈ earlier, other.id ≠ id) (named : c.id = id) (counted : c.picked? = some picked)
      (changed : after = { m with choices := earlier ++ picked :: later }) : Counts m id after

section
variable {m after : Menu} {id : String}

theorem pickFirst?_of_first {earlier later : List Choice} {c : Choice} (foreign : ∀ other ∈ earlier, other.id ≠ id)
    (named : c.id = id) :
    pickFirst? id (earlier ++ c :: later) = c.picked?.map fun picked => earlier ++ picked :: later := by
  induction earlier with
  | nil => simp [pickFirst?, named]
  | cons other earlier ih =>
    have passed : (other.id == id) = false := beq_eq_false_iff_ne.mpr (foreign other List.mem_cons_self)
    rw [List.cons_append, pickFirst?, passed, if_neg Bool.false_ne_true,
      ih fun next member => foreign next (List.mem_cons_of_mem other member), Option.map_map]
    rfl

theorem picksOf_of_first {earlier later : List Choice} {c : Choice} (split : m.choices = earlier ++ c :: later)
    (foreign : ∀ other ∈ earlier, other.id ≠ id) (named : c.id = id) : m.picksOf id = c.picks := by
  have passed : earlier.find? (·.id == id) = none := by simpa using foreign
  simp [picksOf, choice?, split, passed, named]

/-- An option that is in the menu has a first option with its id. -/
theorem exists_first {c : Choice} (member : c ∈ m.choices) : ∃ earlier first later,
    m.choices = earlier ++ first :: later ∧ (∀ other ∈ earlier, other.id ≠ c.id) ∧ first.id = c.id := by
  have found : (m.choices.find? (·.id == c.id)).isSome = true := List.find?_isSome.mpr ⟨c, member, beq_self_eq_true _⟩
  obtain ⟨first, here⟩ := Option.isSome_iff_exists.mp found
  obtain ⟨named, earlier, later, split, foreign⟩ := List.find?_eq_some_iff_append.mp here
  exact ⟨earlier, first, later, split, by simpa using foreign, by simpa using named⟩

/-- Where the count of no option is full, that of no id is. -/
theorem picksOf_ne_of_countable (countable : ∀ c ∈ m.choices, c.picks.toNat < 0xFFFFFFFF) (id : String) :
    m.picksOf id ≠ 0xFFFFFFFF := by
  intro full
  cases found : m.choice? id with
  | none => simp [picksOf, found] at full
  | some first =>
    have below := countable first (List.mem_of_find?_eq_some found)
    rw [picksOf, found, Option.map_some, Option.getD_some] at full
    rw [full] at below
    exact absurd below (by decide)

/-- A pick of an option in the menu is counted just where the count of its id has room. -/
theorem counting?_cases {c : Choice} (member : c ∈ m.choices) :
    (m.picksOf c.id ≠ 0xFFFFFFFF ∧ ∃ after, m.counting? c.id = some after ∧ m.Counts c.id after) ∨
      (m.picksOf c.id = 0xFFFFFFFF ∧ m.counting? c.id = none) := by
  obtain ⟨earlier, first, later, split, foreign, named⟩ := exists_first member
  rw [picksOf_of_first split foreign named, counting?, split, pickFirst?_of_first foreign named]
  cases counted : first.picked? with
  | none => exact .inr ⟨Choice.picked?_eq_none_iff.mp counted, rfl⟩
  | some picked =>
    exact .inl ⟨(Choice.picked?_eq_some_iff.mp counted).1, _, rfl, .first split foreign named counted rfl⟩

theorem exists_counts {c : Choice} (member : c ∈ m.choices) (room : m.picksOf c.id ≠ 0xFFFFFFFF) :
    ∃ after, m.counting? c.id = some after ∧ m.Counts c.id after := by
  rcases counting?_cases member with ⟨_, counts⟩ | ⟨full, _⟩
  · exact counts
  · exact absurd full room

theorem Counts.picksOf_eq (counts : m.Counts id after) (other : String) :
    (after.picksOf other).toNat = (m.picksOf other).toNat + if other = id then 1 else 0 := by
  obtain ⟨split, foreign, named, counted, changed⟩ := counts
  obtain ⟨_, rfl⟩ := Choice.picked?_eq_some_iff.mp counted
  by_cases same : other = id
  · have now := picksOf_of_first (congrArg Menu.choices changed) foreign named
    rw [if_pos same, same, now, picksOf_of_first split foreign named]
    exact Choice.toNat_picks_of_picked counted
  · have passed : ¬ id = other := fun named => same named.symm
    simp [changed, picksOf, choice?, split, List.find?_append, named, passed, same]

theorem Counts.resetPicks_eq (counts : m.Counts id after) : after.resetPicks = m.resetPicks := by
  obtain ⟨split, _, _, counted, rfl⟩ := counts
  obtain ⟨_, rfl⟩ := Choice.picked?_eq_some_iff.mp counted
  simp [resetPicks, split]

end

end Menu
end Narrative
