import Narrative.Proofs.Menu.Lifetime

/-!
How long an option stays unlocked. Each call that returns an id makes its count larger by one, and no call makes a count
smaller, so whatever waits for the id stays unlocked. But counts have 32 bits, and a call for an option whose count is
full stops the program. The ceiling of an option keeps it from coming to that, so just the options without one do, after
2^32 - 1 picks (`unlocking_of_distinct`).
-/
namespace Narrative
namespace Menu

/-- The picks of an id after the first of some calls. -/
def picksAfter (m : Menu) (calls : List Ask) (first : Nat) (id : String) : UInt32 :=
  (m.askAll (calls.take first)).2.picksOf id

theorem picksAfter_succ {m : Menu} {calls : List Ask} {place : Nat} {id : String}
    (returned : (m.askAll calls).1[place]? = some (some id)) :
    (m.picksAfter calls (place + 1) id).toNat = (m.picksAfter calls place id).toNat + 1 := by
  rw [getElem?_askAll, Option.map_eq_some_iff] at returned
  obtain ⟨call, here, answer⟩ := returned
  obtain ⟨inside, rfl⟩ := List.getElem?_eq_some_iff.mp here
  rw [picksAfter, picksAfter, List.take_succ_eq_append_getElem inside, askAll_concat, picksOf_ask, if_pos answer]

theorem picksOf_le_askAll (m : Menu) (calls : List Ask) (id : String) :
    m.picksOf id ≤ (m.askAll calls).2.picksOf id := by
  rw [UInt32.le_iff_toNat_le, picksOf_askAll]
  exact Nat.le_add_right _ _

theorem picksAfter_le (m : Menu) (calls : List Ask) {first place : Nat} (later : first ≤ place) (id : String) :
    m.picksAfter calls first id ≤ m.picksAfter calls place id := by
  have begins : calls.take first <+: calls.take place := List.take_prefix_take_left later
  obtain ⟨between, split⟩ := begins
  rw [picksAfter, picksAfter, ← split, askAll_append]
  exact picksOf_le_askAll _ between id

theorem isLocked_eq_false_iff {m : Menu} {c : Choice} :
    m.isLocked c = false ↔ ∀ prerequisite, c.prerequisite = some prerequisite → m.picksOf prerequisite ≠ 0 := by
  cases needs : c.prerequisite <;> simp [isLocked, needs]

theorem isLocked_askAll {m : Menu} {c : Choice} (met : m.isLocked c = false) (calls : List Ask) :
    (m.askAll calls).2.isLocked c = false := by
  rw [isLocked_eq_false_iff] at met ⊢
  intro prerequisite needs none_left
  have more := m.picksOf_le_askAll calls prerequisite
  rw [none_left, UInt32.le_zero_iff] at more
  exact met prerequisite needs more

/-- An option that is shown with a number when its count is full has no ceiling. -/
theorem maxPicks_of_full {m : Menu} {ctx : Option Context} {c : Choice} (available : m.appearance ctx c = .available)
    (full : c.picks = 0xFFFFFFFF) : c.maxPicks = 0 := by
  have visible : m.appearance ctx c ≠ .hidden := by simp [available]
  have unspent := (appearance_ne_hidden_iff.mp visible).1
  rw [← Bool.not_eq_true, isExhausted_iff, full] at unspent
  by_contra ceiling
  exact unspent ⟨ceiling, Nat.le_of_lt_succ c.maxPicks.toNat_lt⟩

/-- What calls make of the counts of a menu and of the options that wait for others. -/
structure Unlocking (m : Menu) (calls : List Ask) : Prop where
  /-- A call that returns an id makes its count larger by one, -/
  counted : ∀ place id, (m.askAll calls).1[place]? = some (some id) →
    (m.picksAfter calls (place + 1) id).toNat = (m.picksAfter calls place id).toNat + 1
  /-- and no call makes a count smaller. -/
  kept : ∀ first place, first ≤ place → ∀ id, m.picksAfter calls first id ≤ m.picksAfter calls place id
  /-- An option whose prerequisite is met stays unlocked. -/
  unlocked : ∀ c, m.isLocked c = false → ∀ earlier, earlier <+: calls → (m.askAll earlier).2.isLocked c = false
  /-- A call stops the program exactly if its number is that of an option without a ceiling, and the picks that the
      option had and those of the earlier calls leave no room in its count. -/
  stopped : ∀ place call, calls[place]? = some call →
    let now := (m.askAll (calls.take place)).2
    now.choose call.number call.ctx = .overflow ↔ ∃ c ∈ m.choices, now.ShowsAs call.ctx call.number c.id ∧
      c.maxPicks = 0 ∧ c.picks.toNat + (m.askAll (calls.take place)).1.count (some c.id) = 0xFFFFFFFF

theorem choose_eq_overflow_iff_of_distinct {m : Menu} (distinct : (m.choices.map (·.id)).Nodup) (calls : List Ask)
    (call : Ask) :
    (m.askAll calls).2.choose call.number call.ctx = .overflow ↔
      ∃ c ∈ m.choices, (m.askAll calls).2.ShowsAs call.ctx call.number c.id ∧ c.maxPicks = 0 ∧
        c.picks.toNat + (m.askAll calls).1.count (some c.id) = 0xFFFFFFFF := by
  have total : ∀ c ∈ m.choices, c.picks.toNat + (m.askAll calls).1.count (some c.id) = 0xFFFFFFFF ↔
      (m.askAll calls).2.picksOf c.id = 0xFFFFFFFF := by
    intro c member
    rw [← UInt32.toNat_inj, picksOf_askAll, picksOf_of_mem distinct member]
    rfl
  rw [choose_eq_overflow_iff]
  constructor
  · rintro ⟨id, shows, full⟩
    obtain ⟨place, now, _, here, rfl⟩ := (showsAs_iff _ _).mp shows
    obtain ⟨later, look⟩ := List.mem_filter.mp (List.mem_of_getElem? here)
    obtain ⟨c, member, same⟩ := exists_of_resetPicks (m.resetPicks_askAll calls) later
    have named : now.id = c.id := (congrArg Choice.id same : _)
    have limit : now.maxPicks = c.maxPicks := (congrArg Choice.maxPicks same : _)
    have own : now.picks = 0xFFFFFFFF := by rw [← full, picksOf_of_mem (distinct_askAll distinct calls) later]
    refine ⟨c, member, named ▸ shows, limit ▸ maxPicks_of_full (by simpa using look) own, ?_⟩
    rw [total c member, ← named]
    exact full
  · rintro ⟨c, member, shows, _, full⟩
    exact ⟨c.id, shows, (total c member).mp full⟩

/-- In a menu whose options have distinct ids, whatever their picks and ceilings, unlocking is permanent as long as no
    count is full, which stops the program. -/
theorem unlocking_of_distinct {m : Menu} (distinct : (m.choices.map (·.id)).Nodup) (calls : List Ask) :
    m.Unlocking calls where
  counted _ _ returned := picksAfter_succ returned
  kept _ _ later id := m.picksAfter_le calls later id
  unlocked _ met earlier _ := isLocked_askAll met earlier
  stopped place call _ := choose_eq_overflow_iff_of_distinct distinct (calls.take place) call

/-- A lantern whose count has room for one more pick, and a door behind it. -/
theorem unlocking_of_lantern :
    let m : Menu := {
      choices := [{ id := "lantern", template := "Light it.", picks := 0xFFFFFFFE },
        { id := "door", template := "Go in.", prerequisite := some "lantern", maxPicks := 3, picks := 2 }] }
    (m.choices.map (·.id)).Nodup ∧ m.Unlocking [⟨1, none⟩, ⟨2, none⟩, ⟨1, none⟩] ∧
      (m.askAll [⟨1, none⟩, ⟨2, none⟩, ⟨1, none⟩]).1 = [some "lantern", some "door", none] := by
  intro m
  have distinct : (m.choices.map (·.id)).Nodup := by decide
  exact ⟨distinct, unlocking_of_distinct distinct _, by decide +kernel⟩

/-- Not every choice of an option that is shown with a number makes its count larger: there is no room in the count of
    the lantern, and choosing it stops the program. -/
theorem overflow_of_full_lantern :
    let door : Choice := { id := "door", template := "Go in.", prerequisite := some "lantern" }
    let m : Menu := { choices := [{ id := "lantern", template := "Light it.", picks := 0xFFFFFFFF }, door] }
    (m.choices.map (·.id)).Nodup ∧ m.isLocked door = false ∧ m.ShowsAs none 1 "lantern" ∧
      m.picksOf "lantern" = 0xFFFFFFFF ∧ m.choose 1 none = .overflow := by
  intro door m
  exact ⟨by decide, by decide, ⟨_, .head _, rfl, rfl⟩, by decide, rfl⟩

end Menu
end Narrative
