import Mathlib.Data.List.Induction
import Mathlib.Data.List.Nodup
import Narrative.Proofs.Menu.Numbering
import Narrative.Proofs.Menu.Session

/-!
A menu over its lifetime. Calls change nothing of a menu but the picks (`resetPicks_askAll`), and the picks of
an option are the calls that returned its id (`picksOf_askAll`). So ceilings and prerequisites hold of every
history of calls, whatever the contexts in which they were made (`lifetime_of_fresh`).
-/
namespace Narrative
namespace Menu

/-- A call for the option with a number, in the context of the moment. -/
structure Ask where
  number : Int
  ctx : Option Context

/-- What calls return, one after the other, and the menu after all of them. -/
def askAll (m : Menu) : List Ask → List (Option String) × Menu
  | [] => ([], m)
  | call :: rest =>
    let (answer, after) := m.ask call.number call.ctx
    let (answers, last) := after.askAll rest
    (answer :: answers, last)

theorem askAll_append (m : Menu) (earlier later : List Ask) :
    m.askAll (earlier ++ later) =
      ((m.askAll earlier).1 ++ ((m.askAll earlier).2.askAll later).1, ((m.askAll earlier).2.askAll later).2) := by
  induction earlier generalizing m with
  | nil => rfl
  | cons call rest ih => simp [askAll, ih]

theorem askAll_concat (m : Menu) (calls : List Ask) (call : Ask) :
    m.askAll (calls ++ [call]) =
      ((m.askAll calls).1 ++ [((m.askAll calls).2.ask call.number call.ctx).1],
        ((m.askAll calls).2.ask call.number call.ctx).2) := by
  rw [askAll_append]
  rfl

theorem length_askAll (m : Menu) (calls : List Ask) : (m.askAll calls).1.length = calls.length := by
  induction calls generalizing m with
  | nil => rfl
  | cons call rest ih => simp [askAll, ih]

/-- The answer of each call is what the menu of its moment returns. -/
theorem getElem?_askAll (m : Menu) (calls : List Ask) (place : Nat) :
    (m.askAll calls).1[place]? =
      calls[place]?.map fun call => ((m.askAll (calls.take place)).2.ask call.number call.ctx).1 := by
  induction calls generalizing m place with
  | nil => rfl
  | cons call rest ih =>
    cases place with
    | zero => rfl
    | succ place => simp [askAll, ih]

theorem resetPicks_ask (m : Menu) (number : Int) (ctx : Option Context) :
    (m.ask number ctx).2.resetPicks = m.resetPicks := by
  rcases m.ask_cases ctx number with ⟨_, _, after, _, _, _, counts, asked⟩ | asked
  · rw [asked]
    exact counts.resetPicks_eq
  · rw [asked]

/-- Calls change only the picks of a menu. -/
theorem resetPicks_askAll (m : Menu) (calls : List Ask) : (m.askAll calls).2.resetPicks = m.resetPicks := by
  induction calls generalizing m with
  | nil => rfl
  | cons call rest ih => exact (ih _).trans (m.resetPicks_ask call.number call.ctx)

theorem exists_of_resetPicks {m other : Menu} (same : other.resetPicks = m.resetPicks) {c : Choice}
    (member : c ∈ other.choices) : ∃ before ∈ m.choices, { c with picks := 0 } = { before with picks := 0 } := by
  have kept : { c with picks := 0 } ∈ m.resetPicks.choices := by
    rw [← same]
    exact List.mem_map_of_mem member
  obtain ⟨before, here, reset⟩ := List.mem_map.mp kept
  exact ⟨before, here, reset.symm⟩

theorem map_id_of_resetPicks {m other : Menu} (same : other.resetPicks = m.resetPicks) :
    other.choices.map (·.id) = m.choices.map (·.id) := by
  have ids : ∀ menu : Menu, menu.choices.map (·.id) = menu.resetPicks.choices.map (·.id) := by
    intro menu
    simp [resetPicks]
  rw [ids, same, ← ids]

/-- Where ids are distinct, the option with an id is the same before and after, picks aside. -/
theorem eq_of_resetPicks {m other : Menu} (distinct : (m.choices.map (·.id)).Nodup)
    (same : other.resetPicks = m.resetPicks) {now before : Choice} (later : now ∈ other.choices)
    (member : before ∈ m.choices) (named : now.id = before.id) : now = { before with picks := now.picks } := by
  obtain ⟨first, here, reset⟩ := exists_of_resetPicks same later
  have firstNamed : first.id = before.id := by
    rw [← named]
    exact (congrArg Choice.id reset).symm
  have equal : first = before := List.inj_on_of_nodup_map distinct here member firstNamed
  subst equal
  simpa using congrArg (fun c : Choice => { c with picks := now.picks }) reset

theorem picksOf_of_mem {m : Menu} (distinct : (m.choices.map (·.id)).Nodup) {c : Choice} (member : c ∈ m.choices) :
    m.picksOf c.id = c.picks := by
  cases found : m.choice? c.id with
  | none =>
    have missing := List.find?_eq_none.mp found c member
    simp at missing
  | some first =>
    have here := List.mem_of_find?_eq_some found
    have named : first.id = c.id := by simpa using List.find?_some found
    have same : first = c := List.inj_on_of_nodup_map distinct here member named
    simp [picksOf, found, same]

theorem isExhausted_iff {c : Choice} : c.isExhausted = true ↔ c.maxPicks ≠ 0 ∧ c.maxPicks.toNat ≤ c.picks.toNat := by
  simp [Choice.isExhausted, UInt32.le_iff_toNat_le]

theorem not_greyed_of_appearance {m : Menu} {ctx : Option Context} {c : Choice}
    (available : m.appearance ctx c = .available) : c.isGreyed ctx = false := by
  unfold appearance at available
  split at available
  · cases available
  · split at available
    · cases available
    · rename_i plain
      simpa using plain

theorem available_of_ask {m : Menu} {number : Int} {ctx : Option Context} {id : String}
    (returned : (m.ask number ctx).1 = some id) :
    ∃ c ∈ m.choices, c.id = id ∧ m.appearance ctx c = .available := by
  rcases m.ask_cases ctx number with ⟨place, c, _, _, here, _, _, asked⟩ | asked
  · rw [asked] at returned
    obtain ⟨member, look⟩ := List.mem_filter.mp (List.mem_of_getElem? here)
    exact ⟨c, member, Option.some.inj returned, by simpa using look⟩
  · rw [asked] at returned
    cases returned

/-- A call counts a pick for the id that it returns, and for no other. -/
theorem picksOf_ask (m : Menu) (number : Int) (ctx : Option Context) (id : String) :
    ((m.ask number ctx).2.picksOf id).toNat =
      (m.picksOf id).toNat + if (m.ask number ctx).1 = some id then 1 else 0 := by
  rcases m.ask_cases ctx number with ⟨_, c, _, _, _, _, counts, asked⟩ | asked
  · rw [asked]
    simpa [eq_comm] using counts.picksOf_eq id
  · simp [asked]

/-- The picks of an id are those that it had and the calls that returned it. -/
theorem picksOf_askAll (m : Menu) (calls : List Ask) (id : String) :
    ((m.askAll calls).2.picksOf id).toNat = (m.picksOf id).toNat + (m.askAll calls).1.count (some id) := by
  induction calls generalizing m with
  | nil => rfl
  | cons call rest ih =>
    rw [askAll, ih, picksOf_ask]
    by_cases returned : (m.ask call.number call.ctx).1 = some id
    · simp only [returned, if_true, List.count_cons_self]
      omega
    · simp [returned]

private theorem picksOf_of_fresh {m : Menu} (fresh : ∀ c ∈ m.choices, c.picks = 0) (id : String) :
    m.picksOf id = 0 := by
  cases found : m.choice? id with
  | none => simp [picksOf, found]
  | some first => simp [picksOf, found, fresh first (List.mem_of_find?_eq_some found)]

/-- Where nothing has been picked before, the picks of an id are the calls that returned it. -/
theorem toNat_picksOf_askAll {m : Menu} (fresh : ∀ c ∈ m.choices, c.picks = 0) (calls : List Ask) (id : String) :
    ((m.askAll calls).2.picksOf id).toNat = (m.askAll calls).1.count (some id) := by
  rw [picksOf_askAll, picksOf_of_fresh fresh, UInt32.toNat_zero, Nat.zero_add]

/-- Where nothing has been picked before, fewer than 2^32 calls do not stop the program. -/
theorem choose_ne_overflow_of_fresh {m : Menu} (fresh : ∀ c ∈ m.choices, c.picks = 0) {calls : List Ask}
    (few : calls.length < 0x100000000) {place : Nat} {call : Ask} (here : calls[place]? = some call) :
    (m.askAll (calls.take place)).2.choose call.number call.ctx ≠ .overflow := by
  intro stopped
  obtain ⟨id, _, full⟩ := (choose_eq_overflow_iff _ _).mp stopped
  have counted := toNat_picksOf_askAll fresh (calls.take place) id
  have bound : (m.askAll (calls.take place)).1.count (some id) ≤ (m.askAll (calls.take place)).1.length :=
    List.count_le_length
  have inside := (List.getElem?_eq_some_iff.mp here).1
  rw [length_askAll, List.length_take] at bound
  rw [full] at counted
  have greatest : (0xFFFFFFFF : UInt32).toNat = 0xFFFFFFFF := rfl
  omega

section
variable {m : Menu} (distinct : (m.choices.map (·.id)).Nodup) (fresh : ∀ c ∈ m.choices, c.picks = 0)
include distinct

theorem distinct_askAll (calls : List Ask) : ((m.askAll calls).2.choices.map (·.id)).Nodup := by
  rw [map_id_of_resetPicks (m.resetPicks_askAll calls)]
  exact distinct

/-- Where a call returns an option with a ceiling, the earlier calls have left it below the ceiling. -/
theorem picksOf_lt_maxPicks {calls : List Ask} {call : Ask} {c : Choice} (member : c ∈ m.choices)
    (ceiling : c.maxPicks ≠ 0) (returned : ((m.askAll calls).2.ask call.number call.ctx).1 = some c.id) :
    ((m.askAll calls).2.picksOf c.id).toNat < c.maxPicks.toNat := by
  obtain ⟨now, later, named, look⟩ := available_of_ask returned
  have same := eq_of_resetPicks distinct (m.resetPicks_askAll calls) later member named
  have limit : now.maxPicks = c.maxPicks := by rw [same]
  have visible : (m.askAll calls).2.appearance call.ctx now ≠ .hidden := by simp [look]
  have unspent := (appearance_ne_hidden_iff.mp visible).1
  rw [← Bool.not_eq_true, isExhausted_iff, limit] at unspent
  rw [← named, picksOf_of_mem (distinct_askAll distinct calls) later]
  exact Nat.not_le.mp fun spent => unspent ⟨ceiling, spent⟩

include fresh

theorem picks_of_mem_askAll {calls : List Ask} {c : Choice}
    (member : c ∈ (m.askAll calls).2.choices) : c.picks.toNat = (m.askAll calls).1.count (some c.id) := by
  rw [← picksOf_of_mem (distinct_askAll distinct calls) member]
  exact toNat_picksOf_askAll fresh calls c.id

theorem count_le_maxPicks (calls : List Ask) {c : Choice} (member : c ∈ m.choices) (ceiling : c.maxPicks ≠ 0) :
    (m.askAll calls).1.count (some c.id) ≤ c.maxPicks.toNat := by
  induction calls using List.reverseRecOn with
  | nil => simp [askAll]
  | append_singleton calls call ih =>
    rw [askAll_concat]
    by_cases returned : ((m.askAll calls).2.ask call.number call.ctx).1 = some c.id
    · have below := picksOf_lt_maxPicks distinct member ceiling returned
      rw [toNat_picksOf_askAll fresh] at below
      simp only [List.count_append, returned, List.count_singleton_self]
      omega
    · simpa [returned] using ih

/-- An option that has been returned as often as its ceiling says is shown no more. -/
theorem not_shown_of_ceiling {calls : List Ask} {c : Choice} (member : c ∈ m.choices) (ceiling : c.maxPicks ≠ 0)
    (spent : c.maxPicks.toNat ≤ (m.askAll calls).1.count (some c.id)) (ctx : Option Context) :
    ∀ s ∈ (m.askAll calls).2.shown ctx, s.id ≠ c.id := by
  intro s shown same
  obtain ⟨now, later, named, visible⟩ := exists_of_mem_shown _ _ shown
  have kept := eq_of_resetPicks distinct (m.resetPicks_askAll calls) later member (named.symm.trans same)
  have limit : now.maxPicks = c.maxPicks := by rw [kept]
  have counted := picks_of_mem_askAll distinct fresh later
  rw [← named, same] at counted
  have exhausted : now.isExhausted = true := by
    rw [isExhausted_iff, limit]
    exact ⟨ceiling, by omega⟩
  rw [(appearance_ne_hidden_iff.mp visible).1] at exhausted
  cases exhausted

theorem not_shown_of_prerequisite {calls : List Ask} {c : Choice}
    (member : c ∈ m.choices) {prerequisite : String} (needs : c.prerequisite = some prerequisite)
    (missing : some prerequisite ∉ (m.askAll calls).1) (ctx : Option Context) :
    ∀ s ∈ (m.askAll calls).2.shown ctx, s.id ≠ c.id := by
  intro s shown same
  obtain ⟨now, later, named, visible⟩ := exists_of_mem_shown _ _ shown
  have kept := eq_of_resetPicks distinct (m.resetPicks_askAll calls) later member (named.symm.trans same)
  have needed : now.prerequisite = some prerequisite := by rw [kept]; exact needs
  have unpicked : (m.askAll calls).2.picksOf prerequisite = 0 := by
    rw [← UInt32.toNat_inj, toNat_picksOf_askAll fresh, List.count_eq_zero.mpr missing]
    rfl
  have locked : (m.askAll calls).2.isLocked now = true := by simp [isLocked, needed, unpicked]
  rw [(appearance_ne_hidden_iff.mp visible).2.2] at locked
  cases locked

omit fresh

/-- No call returns an option that is greyed in the context of the call. -/
theorem not_returned_of_greyed {calls : List Ask} {place : Nat} {call : Ask} (here : calls[place]? = some call)
    {c : Choice} (member : c ∈ m.choices) (greyed : c.isGreyed call.ctx = true) :
    (m.askAll calls).1[place]? ≠ some (some c.id) := by
  intro returned
  simp only [getElem?_askAll, here, Option.map_some, Option.some.injEq] at returned
  obtain ⟨now, later, named, look⟩ := available_of_ask returned
  have kept := eq_of_resetPicks distinct (m.resetPicks_askAll _) later member named
  have stillGreyed : now.isGreyed call.ctx = true := by
    rw [kept]
    exact greyed
  rw [not_greyed_of_appearance look] at stillGreyed
  cases stillGreyed

end

/-- What calls, made in any contexts, make of a menu. -/
structure Lifetime (m : Menu) (calls : List Ask) : Prop where
  /-- No call stops the program. -/
  running : ∀ (place : Nat) call, calls[place]? = some call →
    (m.askAll (calls.take place)).2.choose call.number call.ctx ≠ .overflow
  /-- The options stay, picks aside. -/
  options : (m.askAll calls).2.resetPicks = m
  /-- The picks of an option are the calls that returned its id. -/
  picks : ∀ c ∈ (m.askAll calls).2.choices, c.picks.toNat = (m.askAll calls).1.count (some c.id)
  /-- No option is returned more often than its ceiling says, -/
  ceiling : ∀ c ∈ m.choices, c.maxPicks ≠ 0 → (m.askAll calls).1.count (some c.id) ≤ c.maxPicks.toNat
  /-- and once some of the calls have returned it as often, it is never shown again. -/
  exhausted : ∀ c ∈ m.choices, c.maxPicks ≠ 0 → ∀ earlier, earlier <+: calls →
    (m.askAll earlier).1.count (some c.id) = c.maxPicks.toNat →
      ∀ ctx, ∀ s ∈ (m.askAll calls).2.shown ctx, s.id ≠ c.id
  /-- An option is not shown before its prerequisite has been returned. -/
  locked : ∀ c ∈ m.choices, ∀ prerequisite, c.prerequisite = some prerequisite →
    some prerequisite ∉ (m.askAll calls).1 → ∀ ctx, ∀ s ∈ (m.askAll calls).2.shown ctx, s.id ≠ c.id
  /-- No call returns an option that is greyed, or tied to a chapter that is visited in the context of the call. -/
  greyed : ∀ (place : Nat) call, calls[place]? = some call → ∀ c ∈ m.choices,
    (c.greyed = true ∨ ∃ chapter story, c.tiedChapter = some chapter ∧ call.ctx = some story ∧
      story.hasVisited chapter = true) → (m.askAll calls).1[place]? ≠ some (some c.id)

/-- A menu whose options have distinct ids and no picks keeps its ceilings, its prerequisites and its greyed
    options over every history of fewer than 2^32 calls. -/
theorem lifetime_of_fresh {m : Menu} (distinct : (m.choices.map (·.id)).Nodup) (fresh : ∀ c ∈ m.choices, c.picks = 0)
    {calls : List Ask} (few : calls.length < 0x100000000) : m.Lifetime calls where
  running place call here := choose_ne_overflow_of_fresh fresh few here
  options := by
    rw [resetPicks_askAll, resetPicks]
    have same : m.choices.map (fun c => { c with picks := 0 }) = m.choices := by
      refine (List.map_congr_left fun c member => ?_).trans (List.map_id _)
      simp [← fresh c member]
    rw [same]
  picks c member := picks_of_mem_askAll distinct fresh member
  ceiling c member := count_le_maxPicks distinct fresh calls member
  exhausted c member ceiling earlier before spent := by
    obtain ⟨later, rfl⟩ := before
    refine not_shown_of_ceiling distinct fresh member ceiling ?_
    rw [askAll_append, ← spent, List.count_append]
    exact Nat.le_add_right _ _
  locked c member prerequisite needs missing := not_shown_of_prerequisite distinct fresh member needs missing
  greyed place call here c member greyed := by
    refine not_returned_of_greyed distinct here member ?_
    simp only [Choice.isGreyed, Bool.or_eq_true, Option.any_eq_true]
    rcases greyed with explicit | ⟨chapter, story, tied, present, visited⟩
    · exact .inl explicit
    · exact .inr ⟨chapter, tied, story, present, visited⟩

/-- An option that can be had once, one behind it, one behind itself, and a door that is greyed until the chapter
    is left aside. -/
theorem lifetime_of_cabin :
    let m : Menu := {
      choices := [{ id := "path", template := "Take the path.", maxPicks := 1 },
        { id := "ask", template := "Ask about the cabin.", prerequisite := some "path", maxPicks := 1 },
        { id := "wait", template := "Wait.", prerequisite := some "wait" },
        { id := "door", template := "A door.", tiedChapter := some "cabin" }] }
    let calls : List Ask :=
      [⟨2, some { visited := ["cabin"] }⟩, ⟨1, some { visited := ["cabin"] }⟩, ⟨1, none⟩, ⟨1, none⟩, ⟨-1, none⟩]
    (m.choices.map (·.id)).Nodup ∧ (∀ c ∈ m.choices, c.picks = 0) ∧ calls.length < 0x100000000 ∧ m.Lifetime calls ∧
      (m.askAll calls).1 = [none, some "path", some "ask", some "door", none] := by
  intro m calls
  have distinct : (m.choices.map (·.id)).Nodup := by decide
  have fresh : ∀ c ∈ m.choices, c.picks = 0 := by decide
  have few : calls.length < 0x100000000 := by decide
  exact ⟨distinct, fresh, few, lifetime_of_fresh distinct fresh few, by decide +kernel⟩

end Menu
end Narrative
