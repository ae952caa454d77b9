import Mathlib.Data.Finset.Card
import Mathlib.Data.Finset.Prod
import Mathlib.Data.List.Perm.Subperm
import Narrative.Proofs.Play.Endings
import Narrative.Proofs.Script.Arguments
import Narrative.Script.Check

/-!
How long a run can take. With a presenter that never fails, where a run goes depends only on where it stands and
on the arrivals so far, which grow by at most one for each switch that remembers (`Grows.length_le`). A run that
is on for longer than there are pairs of a line and a number of arrivals comes back to a cursor (`exists_repeat`),
and then it never ends (`endless_of_patience`). So `Script.patience` is an allowance that every run that ends
keeps to. A presenter that is going to fail has fewer uses left each time that a run comes back and does not repeat
itself for ever, so then `Script.horizon` is such an allowance (`endless_of_horizon`).
-/
namespace Narrative

variable {σ : Type} [Generator σ]

/-- The arrivals that the lines of a script remember in a story state. -/
def Script.arrivals (script : Script) (ctx : Context) : List Arrival := script.lines.filterMap (Line.arrivalIn ctx)

private theorem remembers_of_arrivalIn {ctx : Context} {line : Line} (arrives : (line.arrivalIn ctx).isSome = true) :
    Script.remembers line = true := by
  obtain ⟨arrival, found⟩ := Option.isSome_iff_exists.mp arrives
  unfold Line.arrivalIn at found
  split at found
  · rename_i keyword args content
    cases read : Directive.read keyword args with
    | error fault => simp [read, Except.toOption] at found
    | ok directive =>
      have word := Directive.keyword_of_read read
      subst word
      cases directive with
      | firstSwitch target => simp [Script.remembers, Line.keyword?, content, Directive.keyword]
      | moodSwitch target => simp [Script.remembers, Line.keyword?, content, Directive.keyword]
      | _ => simp [read, Except.toOption, Directive.arrival?] at found
  · cases found

/-- There are no more arrivals than switches that remember them. -/
theorem Script.length_arrivals_le (script : Script) (ctx : Context) :
    (script.arrivals ctx).length ≤ script.lines.countP Script.remembers := by
  rw [arrivals, List.length_filterMap_eq_countP]
  exact List.countP_mono_left fun line _ arrives => remembers_of_arrivalIn arrives

/-- Arrivals grow by new ones that lines of the script remember. -/
def Grows (script : Script) (ctx : Context) (before after : List Arrival) : Prop :=
  ∃ fresh, after = fresh ++ before ∧ fresh.Nodup ∧
    ∀ arrival ∈ fresh, arrival ∉ before ∧ arrival ∈ script.arrivals ctx

namespace Grows
variable {script : Script} {ctx : Context} {before between after : List Arrival}

theorem refl (script : Script) (ctx : Context) (before : List Arrival) : Grows script ctx before before :=
  ⟨[], rfl, .nil, by simp⟩

theorem trans (early : Grows script ctx before between) (late : Grows script ctx between after) :
    Grows script ctx before after := by
  obtain ⟨first, rfl, distinct, new⟩ := early
  obtain ⟨second, rfl, distinct', new'⟩ := late
  refine ⟨second ++ first, (List.append_assoc second first before).symm, ?_, fun arrival member => ?_⟩
  · refine List.nodup_append.mpr ⟨distinct', distinct, fun a inSecond b inFirst same => ?_⟩
    subst same
    exact (new' a inSecond).1 (List.mem_append_left before inFirst)
  · rcases List.mem_append.mp member with inSecond | inFirst
    · obtain ⟨unseen, known⟩ := new' arrival inSecond
      exact ⟨fun old => unseen (List.mem_append_right first old), known⟩
    · exact new arrival inFirst

theorem length_mono (grows : Grows script ctx before after) : before.length ≤ after.length := by
  obtain ⟨fresh, rfl, _, _⟩ := grows
  simp

theorem eq_of_length (grows : Grows script ctx before after) (same : before.length = after.length) :
    before = after := by
  obtain ⟨fresh, rfl, _, _⟩ := grows
  have none_fresh : fresh = [] := List.eq_nil_of_length_eq_zero (by simpa using same)
  rw [none_fresh, List.nil_append]

theorem length_le (grows : Grows script ctx before after) :
    after.length ≤ before.length + script.lines.countP Script.remembers := by
  obtain ⟨fresh, rfl, distinct, new⟩ := grows
  have within : fresh.length ≤ (script.arrivals ctx).length :=
    (List.Nodup.subperm distinct fun arrival member => (new arrival member).2).length_le
  have bound := script.length_arrivals_le ctx
  rw [List.length_append]
  omega

end Grows

namespace Cursor

/-- The line of a cursor, with the number of arrivals that it has beyond those of the beginning. -/
def phase (beginning : List Arrival) (c : Cursor) : Nat × Nat := (c.position, c.seen.length - beginning.length)

variable {script : Script} {ctx : Context} {beginning : List Arrival}

/-- There are as many phases on the lines of a script as the script has patience for. -/
theorem phase_mem {c : Cursor} (grows : Grows script ctx beginning c.seen) (inside : c.position < script.size) :
    c.phase beginning ∈ Finset.range script.size ×ˢ Finset.range (script.lines.countP Script.remembers + 1) := by
  have grown := grows.length_le
  refine Finset.mem_product.mpr ⟨Finset.mem_range.mpr inside, Finset.mem_range.mpr ?_⟩
  show c.seen.length - beginning.length < _
  omega

/-- A later cursor in the same phase is the same cursor. -/
theorem eq_of_phase {early late : Cursor} (grows : Grows script ctx beginning early.seen)
    (later : Grows script ctx early.seen late.seen) (same : early.phase beginning = late.phase beginning) :
    early = late := by
  obtain ⟨position, number⟩ := Prod.mk.inj same
  have before := grows.length_mono
  have after := later.length_mono
  have seen := later.eq_of_length (by omega)
  cases early
  cases late
  cases position
  cases seen
  rfl

end Cursor

namespace Playback

section
variable (script : Script) (settings : PlaySettings) (ctx : Context)

theorem grows_of_step (state : Playback σ) {line : Line} (inside : line ∈ script.lines) :
    Grows script ctx state.cursor.seen (state.step script settings ctx line).1.cursor.seen := by
  rcases seen_of_step script settings ctx state line with kept | ⟨arrival, arrives, unseen, kept⟩
  · rw [kept]
    exact .refl script ctx _
  · rw [kept]
    refine ⟨[arrival], rfl, List.nodup_singleton arrival, fun a member => ?_⟩
    rw [List.mem_singleton.mp member]
    exact ⟨unseen, List.mem_filterMap.mpr ⟨line, inside, arrives⟩⟩

theorem grows_of_advance (allowed : Nat) (state : Playback σ) :
    Grows script ctx state.cursor.seen (state.advance script settings ctx allowed).1.cursor.seen := by
  induction allowed, state using advance_induction σ script settings ctx with
  | finished allowed state outside =>
    rw [advance_finished outside]
    exact .refl script ctx _
  | stopped state line here =>
    rw [advance_zero here]
    exact .refl script ctx _
  | last allowed state line final verdict here ends =>
    have grows := grows_of_step script settings ctx state (List.mem_of_getElem? here)
    rw [ends] at grows
    rwa [advance_of_last here ends]
  | next allowed state line next here continues ih =>
    have grows := grows_of_step script settings ctx state (List.mem_of_getElem? here)
    rw [continues] at grows
    rw [advance_of_next here continues]
    exact grows.trans ih

end

section
variable {script : Script} {settings : PlaySettings} {ctx : Context} {state : Playback σ}

theorem phase_of_advance {allowed : Nat} (on : (state.advance script settings ctx allowed).2 = none) :
    (state.advance script settings ctx allowed).1.cursor.phase state.cursor.seen ∈
      Finset.range script.size ×ˢ Finset.range (script.lines.countP Script.remembers + 1) := by
  obtain ⟨line, here⟩ := line_of_advance (Prod.ext rfl on)
  exact Cursor.phase_mem (grows_of_advance script settings ctx allowed state) (List.getElem?_eq_some_iff.mp here).1

/-- A run that goes on for longer than its script has patience comes back to a cursor. -/
theorem exists_repeat (on : (state.advance script settings ctx script.patience).2 = none) :
    ∃ early late, early < late ∧ late ≤ script.patience ∧
      (state.advance script settings ctx early).1.cursor = (state.advance script settings ctx late).1.cursor := by
  have still : ∀ t ∈ Finset.range (script.patience + 1), (state.advance script settings ctx t).2 = none :=
    fun t member => advance_none_of_le on (Nat.lt_succ_iff.mp (Finset.mem_range.mp member))
  have fewer : (Finset.range script.size ×ˢ Finset.range (script.lines.countP Script.remembers + 1)).card <
      (Finset.range (script.patience + 1)).card := by
    simp [Script.patience]
  obtain ⟨i, iOn, j, jOn, different, same⟩ :=
    Finset.exists_ne_map_eq_of_card_lt_of_maps_to fewer fun t member => phase_of_advance (still t member)
  wlog sooner : i < j generalizing i j
  · exact this j jOn i iOn different.symm same.symm (lt_of_le_of_ne (not_lt.mp sooner) different.symm)
  refine ⟨i, j, sooner, Nat.lt_succ_iff.mp (Finset.mem_range.mp jOn), ?_⟩
  -- The arrivals at the later time extend those at the earlier one, so as many are the same.
  refine Cursor.eq_of_phase (grows_of_advance script settings ctx i state) ?_ same
  have rest := advance_add (Prod.ext rfl (still i iOn)) (j - i)
  rw [Nat.add_sub_cancel' (Nat.le_of_lt sooner)] at rest
  rw [rest]
  exact grows_of_advance script settings ctx (j - i) _

/-- A run that comes back to a cursor with as many uses of its presenter left never ends. -/
theorem endless_of_repeat {early late : Nat} (sooner : early < late)
    (on : (state.advance script settings ctx late).2 = none)
    (same : (state.advance script settings ctx early).1.cursor = (state.advance script settings ctx late).1.cursor)
    (level : (state.advance script settings ctx early).1.presenter.allowance =
      (state.advance script settings ctx late).1.presenter.allowance)
    (allowed : Nat) : (state.advance script settings ctx allowed).2 = none := by
  induction allowed using Nat.strongRecOn with
  | ind allowed ih =>
    by_cases within : allowed ≤ late
    · exact advance_none_of_le on within
    · -- What follows the second visit to the cursor is what followed the first one.
      obtain ⟨rest, rfl⟩ := Nat.exists_eq_add_of_le (Nat.le_of_not_le within)
      have before := advance_none_of_le on (Nat.le_of_lt sooner)
      have shorter := ih (early + rest) (by omega)
      rw [advance_add (Prod.ext rfl before)] at shorter
      rw [advance_add (Prod.ext rfl on)]
      rw [← shorter]
      exact (advance_congr same level).2.symm

/-- With a presenter that is going to fail, a run that is on after its script has lost patience for each use and once
    more never ends. -/
theorem endless_of_uses {uses : Nat} (left : state.presenter.allowance = some uses)
    (on : (state.advance script settings ctx (script.patience * (uses + 1))).2 = none) (allowed : Nat) :
    (state.advance script settings ctx allowed).2 = none := by
  induction uses using Nat.strongRecOn generalizing state allowed with
  | ind uses ih =>
    have first : script.patience ≤ script.patience * (uses + 1) := Nat.le_mul_of_pos_right _ (Nat.succ_pos uses)
    obtain ⟨early, late, sooner, within, same⟩ := exists_repeat (advance_none_of_le on first)
    have later := advance_none_of_le on (within.trans first)
    have before := advance_none_of_le later (Nat.le_of_lt sooner)
    obtain ⟨spent, atEarly⟩ := @exists_spent σ _ script settings ctx state early
    obtain ⟨more, atLate⟩ :=
      @exists_spent σ _ script settings ctx (state.advance script settings ctx early).1 (late - early)
    rw [← advance_add (Prod.ext rfl before), Nat.add_sub_cancel' (Nat.le_of_lt sooner), atEarly, left] at atLate
    rw [left] at atEarly
    simp only [Option.map_some] at atEarly atLate
    by_cases level : uses - spent - more = uses - spent
    · exact endless_of_repeat sooner later same (by rw [atEarly, atLate, level]) allowed
    · -- Fewer uses are left when the run comes back, and there are lines enough for them.
      by_cases short : allowed ≤ late
      · exact advance_none_of_le later short
      · obtain ⟨rest, rfl⟩ := Nat.exists_eq_add_of_le (Nat.le_of_not_le short)
        rw [advance_add (Prod.ext rfl later)]
        refine ih (uses - spent - more) (by omega) atLate ?_ rest
        rw [← advance_add (Prod.ext rfl later)]
        refine advance_none_of_le on ?_
        calc late + script.patience * (uses - spent - more + 1)
            ≤ script.patience + script.patience * uses := Nat.add_le_add within (Nat.mul_le_mul_left _ (by omega))
          _ = script.patience * (uses + 1) := by rw [Nat.mul_succ, Nat.add_comm]

/-- A run that is on at the horizon of its script never ends. -/
theorem endless_of_horizon
    (on : (state.advance script settings ctx (script.horizon state.presenter.allowance)).2 = none) (allowed : Nat) :
    (state.advance script settings ctx allowed).2 = none := by
  cases left : state.presenter.allowance with
  | none =>
    rw [left, Script.horizon] at on
    obtain ⟨early, late, sooner, within, same⟩ := exists_repeat on
    have level : (state.advance script settings ctx early).1.presenter.allowance =
        (state.advance script settings ctx late).1.presenter.allowance := by
      rw [allowance_of_advance left, allowance_of_advance left]
    exact endless_of_repeat sooner (advance_none_of_le on within) same level allowed
  | some uses =>
    rw [left, Script.horizon] at on
    exact endless_of_uses left on allowed

/-- A run that is the same in two scripts, however many lines are executed, never ends in either, or comes to its end
    within the horizons of both. -/
theorem endless_or_advance_eq {other : Script}
    (same : ∀ lines, state.advance other settings ctx lines = state.advance script settings ctx lines) :
    (∀ lines, (state.advance script settings ctx lines).2 = none) ∨
      state.advance script settings ctx (other.horizon state.presenter.allowance) =
        state.advance script settings ctx (script.horizon state.presenter.allowance) := by
  cases outcome : state.advance script settings ctx (script.horizon state.presenter.allowance) with
  | mk last verdict =>
    cases outcome' : state.advance script settings ctx (other.horizon state.presenter.allowance) with
    | mk last' verdict' =>
      cases verdict with
      | none => exact .inl (endless_of_horizon (congrArg Prod.snd outcome))
      | some ending =>
        cases verdict' with
        | none =>
          rw [← same] at outcome'
          exact .inl fun lines => by rw [← same, endless_of_horizon (congrArg Prod.snd outcome') lines]
        | some ending' =>
          obtain ⟨_, rfl, rfl⟩ := (ends_of_advance outcome).1.unique (ends_of_advance outcome').1
          exact .inr rfl

/-- With a presenter that never fails, a run that is on when its script has lost patience never ends. -/
theorem endless_of_patience (unfailing : state.presenter.allowance = none)
    (on : (state.advance script settings ctx script.patience).2 = none) (allowed : Nat) :
    (state.advance script settings ctx allowed).2 = none :=
  endless_of_horizon (by rwa [unfailing]) allowed

theorem Ends.le_patience {lines : Nat} {last : Playback σ} {ending : Ending}
    (ends : Ends script settings ctx lines state last ending) (unfailing : state.presenter.allowance = none) :
    lines ≤ script.patience := by
  refine Nat.le_of_not_lt fun long => ?_
  obtain ⟨between, reached, _⟩ := ends.split long
  have on := endless_of_patience unfailing (by rw [reached]) lines
  rw [ends.advance (Nat.le_refl lines)] at on
  cases on

end
end Playback

namespace Script

section
variable {script : Script} {settings : PlaySettings} {ctx : Context} {start : Start} {state last : Playback σ}
  {position : Nat} {ending : Ending}

theorem run_eq_resume (entered : script.entry ctx state.cursor start = .ok position) :
    script.run settings ctx start state =
      script.run settings ctx .resume { state with cursor := state.cursor.moveTo position } := by
  have resumed : script.entry ctx (state.cursor.moveTo position) .resume = .ok position := rfl
  rw [run_of_entry entered, run_of_entry resumed]
  rfl

/-- Scripts that are entered at the same line and do the same, however many lines are executed, run the same, but for
    where a run that never ends is left off. -/
theorem run_of_advance_eq {other : Script}
    (enters : other.entry ctx state.cursor start = script.entry ctx state.cursor start)
    (same : ∀ lines (entered : Playback σ),
      entered.advance other settings ctx lines = entered.advance script settings ctx lines) :
    (other.run settings ctx start state).2 = (script.run settings ctx start state).2 ∧
      ((script.run settings ctx start state).2 ≠ .endless →
        other.run settings ctx start state = script.run settings ctx start state) := by
  cases entered : script.entry ctx state.cursor start with
  | error fault =>
    rw [run_of_error entered, run_of_error (enters.trans entered)]
    exact ⟨rfl, fun _ => rfl⟩
  | ok position =>
    rw [run_of_entry entered, run_of_entry (enters.trans entered), same]
    by_cases unlimited : settings.stepLimit = 0
    · rw [allowed_of_unlimited script unlimited, allowed_of_unlimited other unlimited, cutOff_of_unlimited unlimited]
      rcases Playback.endless_or_advance_eq (same · { state with cursor := state.cursor.moveTo position }) with
        endless | alike
      · dsimp only
        rw [endless, endless]
        exact ⟨rfl, fun closes => absurd rfl closes⟩
      · rw [alike]
        exact ⟨rfl, fun _ => rfl⟩
    · have positive : 1 ≤ settings.stepLimit := Nat.pos_of_ne_zero unlimited
      rw [allowed_of_pos script positive, allowed_of_pos other positive]
      exact ⟨rfl, fun _ => rfl⟩

/-- Without a limit on lines, a run comes to an end exactly if a number of lines leads there. -/
theorem run_resume_iff (unlimited : settings.stepLimit = 0) (unfailing : state.presenter.allowance = none) :
    script.run settings ctx .resume state = (last, ending) ∧ ending ≠ .endless ↔
      ∃ lines, Playback.Ends script settings ctx lines state last ending := by
  have cut : cutOff settings = .endless := cutOff_of_unlimited unlimited
  constructor
  · rintro ⟨ran, closes⟩
    obtain ⟨position, entered, ends⟩ := ends_of_run rfl ran (by rwa [cut])
    cases entered
    exact ⟨_, ends⟩
  · rintro ⟨lines, ends⟩
    refine ⟨run_of_ends ⟨state.cursor.position, rfl, ends⟩ ?_, cut ▸ ends.ne_cutOff settings⟩
    rw [allowed_of_unlimited script unlimited, unfailing, horizon]
    exact ends.le_patience unfailing

end

section
variable {script : Script} {settings : PlaySettings} {ctx : Context} {start : Start} {state : Playback σ}

/-- Every limit on lines stops the run. -/
def Endless (script : Script) (settings : PlaySettings) (ctx : Context) (start : Start) (state : Playback σ) : Prop :=
  ∀ limit, 1 ≤ limit →
    (script.run { settings with stepLimit := limit } ctx start state).2 = .fault (.stepLimit limit)

theorem stopped_iff {position limit : Nat} (entered : script.entry ctx state.cursor start = .ok position)
    (positive : 1 ≤ limit) :
    (script.run { settings with stepLimit := limit } ctx start state).2 = .fault (.stepLimit limit) ↔
      (Playback.advance script settings ctx limit { state with cursor := state.cursor.moveTo position }).2 = none := by
  have allowance : script.allowed { settings with stepLimit := limit } state.presenter = limit :=
    allowed_of_pos script positive _
  have limited : cutOff { settings with stepLimit := limit } = .fault (.stepLimit limit) := cutOff_of_pos positive
  rw [← limited, run_eq_cutOff_iff entered, allowance, Playback.advance_withLimit]

/-- A start that leads somewhere is endless if the run from there is on after any number of lines. -/
theorem endless_iff {position : Nat} (entered : script.entry ctx state.cursor start = .ok position) :
    script.Endless settings ctx start state ↔ ∀ allowed,
      (Playback.advance script settings ctx allowed { state with cursor := state.cursor.moveTo position }).2 =
        none := by
  constructor
  · intro endless allowed
    have later := (stopped_iff entered (Nat.le_add_left 1 allowed)).mp (endless _ (Nat.le_add_left 1 allowed))
    exact Playback.advance_none_of_le later (Nat.le_succ allowed)
  · exact fun on limit positive => (stopped_iff entered positive).mpr (on limit)

/-- If the presenter never fails, a run that is cut off when its script has lost patience is endless. -/
theorem run_eq_cutOff_iff_endless (unfailing : state.presenter.allowance = none) {limit : Nat}
    (patient : script.patience ≤ script.allowed { settings with stepLimit := limit } state.presenter) :
    (script.run { settings with stepLimit := limit } ctx start state).2 = cutOff { settings with stepLimit := limit } ↔
      script.Endless settings ctx start state := by
  cases entered : script.entry ctx state.cursor start with
  | error fault =>
    rw [run_of_error entered]
    refine ⟨fun cut => absurd cut (fault_ne_cutOff entered _), fun endless => ?_⟩
    have cut := endless 1 (Nat.le_refl 1)
    rw [run_of_error entered] at cut
    exact absurd cut (fault_ne_cutOff entered { settings with stepLimit := 1 })
  | ok position =>
    rw [run_eq_cutOff_iff entered, endless_iff entered, Playback.advance_withLimit]
    constructor
    · intro on
      exact Playback.endless_of_patience unfailing (Playback.advance_none_of_le on patient)
    · exact fun on => on _

theorem length_visits_le (unfailing : state.presenter.allowance = none)
    (free : (script.run settings ctx start state).2 ≠ cutOff settings) :
    (script.visits settings ctx start state).length ≤ script.patience := by
  cases entered : script.entry ctx state.cursor start with
  | error fault => simp [visits, entered]
  | ok position =>
    obtain ⟨_, _, ends⟩ := ends_of_run entered rfl free
    exact ends.le_patience unfailing

end

/-- If the presenter never fails, a limit on lines that is no smaller than the number of lines times one more than
    the number of switches that remember stops the endless runs and no others, which are those that have no end
    without a limit. Whatever the limit, a run that it does not stop executes no more lines than that. -/
theorem endless_of_stepLimit {σ : Type} [Generator σ] {script : Script} {settings : PlaySettings} {ctx : Context}
    {start : Start} {state : Playback σ} (unfailing : state.presenter.allowance = none) :
    let bound := script.size * (script.lines.countP remembers + 1)
    (∀ limit, 1 ≤ limit → bound ≤ limit →
        ((script.run { settings with stepLimit := limit } ctx start state).2 = .fault (.stepLimit limit) ↔
          script.Endless settings ctx start state)) ∧
      ((script.run { settings with stepLimit := 0 } ctx start state).2 = .endless ↔
        script.Endless settings ctx start state) ∧
      ∀ limit, (script.run { settings with stepLimit := limit } ctx start state).2 ≠
          cutOff { settings with stepLimit := limit } →
        (script.visits { settings with stepLimit := limit } ctx start state).length ≤ bound := by
  intro bound
  refine ⟨fun limit positive enough => ?_, ?_, fun limit free => length_visits_le unfailing free⟩
  · have allowance : script.allowed { settings with stepLimit := limit } state.presenter = limit :=
      allowed_of_pos script positive _
    have limited : cutOff { settings with stepLimit := limit } = .fault (.stepLimit limit) := cutOff_of_pos positive
    rw [← limited]
    exact run_eq_cutOff_iff_endless unfailing (by rw [allowance]; exact enough)
  · have allowance : script.allowed { settings with stepLimit := 0 } state.presenter = script.patience := by
      simp [allowed, horizon, unfailing]
    exact run_eq_cutOff_iff_endless unfailing (Nat.le_of_eq allowance.symm)

/-- A loop of seven lines with one switch that remembers: a limit of fourteen tells that no limit lets it end. -/
theorem endless_of_fourteen :
    let script := Script.parse "loop"
      "label start\nHero: Wait.\nfirstswitch seen_again\njumpto start\nlabel seen_again\npause 1 3\njumpto start"
    let state : Playback Tape := { chance := ⟨[2, 3]⟩ }
    script.accepted {} = true ∧ script.size * (script.lines.countP remembers + 1) = 14 ∧
      (script.run { stepLimit := 14 } {} .beginning state).2 = .fault (.stepLimit 14) ∧
      script.Endless {} {} .beginning state := by
  intro script state
  have facts : script.accepted {} = true ∧ script.size * (script.lines.countP remembers + 1) = 14 ∧
      (script.run { stepLimit := 14 } {} .beginning state).2 = .fault (.stepLimit 14) := by decide +kernel
  obtain ⟨accepted, bound, stopped⟩ := facts
  obtain ⟨detected, _⟩ := @endless_of_stepLimit Tape _ script {} {} .beginning state rfl
  exact ⟨accepted, bound, stopped, (detected 14 (by decide) (Nat.le_of_eq bound)).mp stopped⟩

end Script
end Narrative
