import Mathlib.Logic.Function.Basic
import Narrative.Proofs.Play.Endings
import Narrative.Proofs.Script.Acceptance

/-!
Switches and the history of their cursor. Runs on a number of cursors follow one another in any order, and now and
then the arrivals of a cursor are forgotten (`Turn`). A scene keeps, beside each cursor, the lines that were executed
on it since then (`Scene`). The arrivals of a cursor are those of the lines among them that their gates let run
(`Remembers`), so a switch goes where the history of its cursor says.
-/
namespace Narrative

variable {σ : Type} [Generator σ]

/-- Lines that were executed, each with the state of the story at the time. -/
abbrev History := List (Context × Line)

/-- What happens to cursors, which have names. -/
inductive Turn (σ κ : Type) where
  | run (cursor : κ) (settings : PlaySettings) (ctx : Context) (start : Start) (chance : σ) (presenter : Presenter)
  /-- The arrivals of a cursor are forgotten. -/
  | forget (cursor : κ)

/-- Cursors, and what was executed on each of them since its arrivals were forgotten. -/
structure Scene (κ : Type) where
  cursors : κ → Cursor := fun _ => {}
  past : κ → History := fun _ => []

namespace Scene
variable {κ : Type} [DecidableEq κ]

/-- The scene after a turn. -/
def turn (script : Script) (scene : Scene κ) : Turn σ κ → Scene κ
  | .run c settings ctx start chance presenter =>
    let state : Playback σ := ⟨scene.cursors c, chance, presenter⟩
    { cursors := Function.update scene.cursors c (script.run settings ctx start state).1.cursor
      past := Function.update scene.past c
        (scene.past c ++ (script.visits settings ctx start state).map fun visit => (ctx, visit.2)) }
  | .forget c =>
    { cursors := Function.update scene.cursors c (scene.cursors c).forget
      past := Function.update scene.past c [] }

/-- The scene after turns with fresh cursors. -/
def after (script : Script) (turns : List (Turn σ κ)) : Scene κ := turns.foldl (turn script) {}

section
variable {script : Script} {motive : Cursor → History → Prop}
  (ran : ∀ settings ctx start (state : Playback σ) past, motive state.cursor past →
    motive (script.run settings ctx start state).1.cursor
      (past ++ (script.visits settings ctx start state).map fun visit => (ctx, visit.2)))
  (forgotten : ∀ cursor past, motive cursor past → motive cursor.forget [])
include ran forgotten

/-- A turn on one cursor is nothing to the others. -/
theorem turn_induction {scene : Scene κ} (holds : ∀ c, motive (scene.cursors c) (scene.past c)) (turn : Turn σ κ)
    (c : κ) : motive ((scene.turn script turn).cursors c) ((scene.turn script turn).past c) := by
  cases turn with
  | run own settings ctx start chance presenter =>
    by_cases same : c = own
    · subst same
      simp only [Scene.turn, Function.update_self]
      exact ran settings ctx start ⟨scene.cursors c, chance, presenter⟩ (scene.past c) (holds c)
    · simp only [Scene.turn, Function.update_of_ne same]
      exact holds c
  | forget own =>
    by_cases same : c = own
    · subst same
      simp only [Scene.turn, Function.update_self]
      exact forgotten (scene.cursors c) (scene.past c) (holds c)
    · simp only [Scene.turn, Function.update_of_ne same]
      exact holds c

/-- What fresh cursors have, and runs and forgetting keep, every cursor has after any turns. -/
theorem after_induction (fresh : motive {} []) (turns : List (Turn σ κ)) (c : κ) :
    motive ((after script turns).cursors c) ((after script turns).past c) := by
  have kept : ∀ scene : Scene κ, (∀ c, motive (scene.cursors c) (scene.past c)) →
      ∀ c, motive ((turns.foldl (turn script) scene).cursors c) ((turns.foldl (turn script) scene).past c) := by
    induction turns with
    | nil => exact fun _ holds => holds
    | cons first rest ih =>
      intro scene holds
      exact ih (scene.turn script first) (turn_induction ran forgotten holds first)
  exact kept {} (fun _ => fresh) c

end

end Scene

/-- The arrivals of a cursor are those of the lines in its history that their gates let run. -/
structure Remembers (script : Script) (seen : List Arrival) (past : History) : Prop where
  inside : ∀ entry ∈ past, entry.2 ∈ script.lines
  mem_iff : ∀ arrival, arrival ∈ seen ↔
    ∃ entry ∈ past, entry.2.runsIn entry.1 = true ∧ entry.2.arrivalIn entry.1 = some arrival

namespace Remembers

theorem nil (script : Script) : Remembers script [] [] := ⟨by simp, by simp⟩

section
variable {script : Script} (settings : PlaySettings) (ctx : Context) {state : Playback σ} {past : History}

/-- An executed line joins the history, also where the presenter fails at it. -/
theorem step (remembers : Remembers script state.cursor.seen past) {line : Line} (member : line ∈ script.lines) :
    Remembers script (state.step script settings ctx line).1.cursor.seen (past ++ [(ctx, line)]) := by
  constructor
  · intro entry found
    rcases List.mem_append.mp found with old | new
    · exact remembers.inside entry old
    · rwa [List.mem_singleton.mp new]
  · intro arrival
    rw [Playback.seen_step, mem_seen_of_perform, remembers.mem_iff]
    simp only [List.mem_append, List.mem_singleton, or_and_right, exists_or, exists_eq_left]

theorem advance (remembers : Remembers script state.cursor.seen past) (allowed : Nat) :
    Remembers script (state.advance script settings ctx allowed).1.cursor.seen
      (past ++ (state.visits script settings ctx allowed).map fun visit => (ctx, visit.2)) := by
  induction allowed, state using Playback.advance_induction σ script settings ctx generalizing past with
  | finished allowed state outside =>
    rw [Playback.advance_finished outside, Playback.visits_finished outside]
    simpa using remembers
  | stopped state line here =>
    rw [Playback.advance_zero here]
    simpa [Playback.visits] using remembers
  | last allowed state line final ending here ends =>
    have joined := remembers.step settings ctx (List.mem_of_getElem? here)
    rw [ends] at joined
    rw [Playback.advance_of_last here ends, Playback.visits_succ here, ends]
    exact joined
  | next allowed state line next here continues ih =>
    have joined := remembers.step settings ctx (List.mem_of_getElem? here)
    rw [continues] at joined
    rw [Playback.advance_of_next here continues, Playback.visits_succ here, continues, List.map_cons,
      List.append_cons]
    exact ih joined

theorem run (remembers : Remembers script state.cursor.seen past) (start : Start) :
    Remembers script (script.run settings ctx start state).1.cursor.seen
      (past ++ (script.visits settings ctx start state).map fun visit => (ctx, visit.2)) := by
  cases entered : script.entry ctx state.cursor start with
  | error fault =>
    rw [Script.run_of_error entered, Script.visits, entered]
    simpa using remembers
  | ok position =>
    rw [Script.run_of_entry entered, Script.visits, entered]
    have moved :
        Remembers script ({ state with cursor := state.cursor.moveTo position } : Playback σ).cursor.seen past :=
      remembers
    exact moved.advance settings ctx (script.allowed settings state.presenter)

/-- On the way of a run, the lines before a visit join the history. -/
theorem visit (remembers : Remembers script state.cursor.seen past) {allowed place : Nat} {visit : Playback σ × Line}
    (executed : (state.visits script settings ctx allowed)[place]? = some visit) :
    Remembers script visit.1.cursor.seen
      (past ++ ((state.visits script settings ctx allowed).take place).map fun earlier => (ctx, earlier.2)) ∧
      visit.2 ∈ script.lines := by
  obtain ⟨within, reached, here⟩ := Playback.visits_getElem?_iff.mp executed
  have advanced := remembers.advance settings ctx place
  rw [reached] at advanced
  rw [Playback.visits_take (Nat.le_of_lt within)]
  exact ⟨advanced, List.mem_of_getElem? here⟩

end

/-- Whatever the turns, each cursor remembers its own history. -/
theorem after {κ : Type} [DecidableEq κ] (script : Script) (turns : List (Turn σ κ)) (c : κ) :
    Remembers script ((Scene.after script turns).cursors c).seen ((Scene.after script turns).past c) := by
  refine Scene.after_induction (motive := fun cursor past => Remembers script cursor.seen past) ?_ ?_ (.nil script)
    turns c
  · intro settings ctx start state past remembers
    exact remembers.run settings ctx start
  · intro cursor past _
    exact .nil script

end Remembers

/-- The place of the line of an arrival. -/
def Arrival.line : Arrival → Nat
  | first line => line
  | mood line _ => line

section
variable {script : Script} {settings : PlaySettings} {ctx : Context} {line : Line} {directive : Directive}
  {arrival : Arrival} {seen : List Arrival} {chance : σ}

theorem arrivalIn_eq (ctx : Context) (line : Line) :
    line.arrivalIn ctx = line.directive?.bind fun directive => directive.arrival? ctx line.index := by
  cases content : line.content with
  | blank | dialogue speaker text unknown => simp [Line.arrivalIn, Line.directive?, Content.directive?, content]
  | directive keyword args => simp [Line.arrivalIn, Line.directive?, Content.directive?, content]

theorem line_of_arrivalIn (arrives : line.arrivalIn ctx = some arrival) : arrival.line = line.index := by
  rw [arrivalIn_eq, Option.bind_eq_some_iff] at arrives
  obtain ⟨directive, _, arrives⟩ := arrives
  cases directive with
  | firstSwitch target | moodSwitch target =>
    cases arrives
    rfl
  | _ => cases arrives

/-- A switch that its gates let run goes by whether its arrival is known. -/
theorem move_of_switch (runs : line.runsIn ctx = true) (written : line.directive? = some directive)
    (arrives : directive.arrival? ctx line.index = some arrival) :
    (line.perform script settings ctx seen chance).move = directive.route script ctx line (seen.contains arrival) := by
  rw [perform_of_directive runs written, arrives]
  rfl

end

/-- In a parsed script, a cursor knows an arrival at a line exactly if the line made it before and ran. -/
theorem Remembers.mem_iff_of_parse {name source : String} {seen : List Arrival} {past : History}
    (remembers : Remembers (Script.parse name source) seen past) {line : Line}
    (member : line ∈ (Script.parse name source).lines) {ctx : Context} {arrival : Arrival}
    (arrives : line.arrivalIn ctx = some arrival) :
    arrival ∈ seen ↔ ∃ before, (before, line) ∈ past ∧ line.runsIn before = true ∧
      line.arrivalIn before = some arrival := by
  rw [remembers.mem_iff]
  constructor
  · rintro ⟨⟨before, other⟩, found, ran, arrived⟩
    have places : other.index = line.index := (line_of_arrivalIn arrived).symm.trans (line_of_arrivalIn arrives)
    obtain rfl := Script.eq_of_index (remembers.inside _ found) member places
    exact ⟨before, found, ran, arrived⟩
  · rintro ⟨before, found, ran, arrived⟩
    exact ⟨(before, line), found, ran, arrived⟩

/-- A switch to a label jumps there in one case, or ends the run if there is no such label, and goes on to the next
    line otherwise. -/
structure JumpsIf (script : Script) (move : Except Fault Move) (target : String) (again : Prop) : Prop where
  jumps : ∀ place, script.labels.line? target = some place → (move = .ok (.jump place) ↔ again)
  lost : script.labels.line? target = none → (move = .error (.unknownLabel target) ↔ again)
  goes_on : move = .ok .next ↔ ¬ again

theorem jumpsIf_of_known {script : Script} {move : Except Fault Move} {target : String} {known : Bool} {again : Prop}
    (same : known = true ↔ again) (goes : move = if known then script.goTo target else .ok .next) :
    JumpsIf script move target again := by
  rw [goes]
  constructor
  · intro place bound
    cases known <;> simp [← same, Script.goTo, bound]
  · intro lost
    cases known <;> simp [← same, Script.goTo, lost]
  · cases known with
    | false => simp [← same]
    | true => cases bound : script.labels.line? target <;> simp [← same, Script.goTo, bound]

section
variable {name source : String} {seen : List Arrival} {past : History} {line : Line} {ctx : Context} {target : String}

/-- A switch that its gates let run jumps exactly if it made its arrival before and ran. -/
theorem Remembers.jumpsIf {directive : Directive} {arrival : Arrival}
    (remembers : Remembers (Script.parse name source) seen past) (member : line ∈ (Script.parse name source).lines)
    (runs : line.runsIn ctx = true) (written : line.directive? = some directive)
    (arrives : directive.arrival? ctx line.index = some arrival)
    (route : ∀ again, directive.route (Script.parse name source) ctx line again =
      if again then (Script.parse name source).goTo target else .ok .next) (settings : PlaySettings) (chance : σ) :
    JumpsIf (Script.parse name source) (line.perform (Script.parse name source) settings ctx seen chance).move target
      (∃ before, (before, line) ∈ past ∧ line.runsIn before = true ∧ line.arrivalIn before = some arrival) := by
  have arrival_in : line.arrivalIn ctx = some arrival := by
    rw [arrivalIn_eq, written]
    exact arrives
  refine jumpsIf_of_known ?_ ((move_of_switch runs written arrives).trans (route _))
  rw [List.contains_iff_mem]
  exact remembers.mem_iff_of_parse member arrival_in

end

/-- In an accepted script, its errors kept, a switch that remembers can be read, and its label is defined. -/
theorem defined_of_accepted {policy : Policy} (keeps : policy.KeepsErrors) {script : Script}
    (accepted : script.accepted policy = true) {line : Line} (member : line ∈ script.lines) :
    (line.keyword? = some .firstSwitch → ∃ target place, line.directive? = some (.firstSwitch target) ∧
      script.labels.line? target = some place) ∧
    (line.keyword? = some .moodSwitch → ∃ target place, line.directive? = some (.moodSwitch target) ∧
      script.labels.line? target = some place) := by
  have bound : ∀ {directive : Directive} {target : String}, directive.Grounded script line →
      target ∈ directive.references → ∃ place, script.labels.line? target = some place :=
    fun grounded refers => LabelTable.contains_iff.mp (grounded.defined _ refers)
  constructor
  · intro word
    obtain ⟨directive, written, kind, grounded⟩ := directive_of_accepted keeps accepted member word
    cases directive with
    | firstSwitch target =>
      obtain ⟨place, there⟩ := bound grounded (List.mem_singleton_self target)
      exact ⟨target, place, written, there⟩
    | _ => cases kind
  · intro word
    obtain ⟨directive, written, kind, grounded⟩ := directive_of_accepted keeps accepted member word
    cases directive with
    | moodSwitch target =>
      obtain ⟨place, there⟩ := bound grounded (List.mem_singleton_self target)
      exact ⟨target, place, written, there⟩
    | _ => cases kind

/-- Switches follow the history of their cursor. Whatever turns came before, on whatever cursors, wherever a run has
    started and however far it has come, a first switch that its gates let run jumps exactly if the same line ran on the
    same cursor since its arrivals were forgotten, and a mood switch exactly if it did so in the same mood. Otherwise
    they go on to the next line. A jump to a label that the script does not define ends the run with that fault; where
    the script is accepted, its errors kept, every switch is one of these and its label is defined. -/
theorem jumpsIf_of_history {σ κ : Type} [Generator σ] [DecidableEq κ] {name source : String} (turns : List (Turn σ κ))
    (c : κ) (settings : PlaySettings) (ctx : Context) (chance : σ) (presenter : Presenter)
    {position allowed place : Nat} {visit : Playback σ × Line}
    (executed : (Playback.visits (Script.parse name source) settings ctx allowed
      ⟨((Scene.after (Script.parse name source) turns).cursors c).moveTo position, chance, presenter⟩)[place]? =
        some visit)
    (runs : visit.2.runsIn ctx = true) :
    let script := Script.parse name source
    let scene := Scene.after script turns
    let whole := Playback.visits script settings ctx allowed ⟨(scene.cursors c).moveTo position, chance, presenter⟩
    let past := scene.past c ++ (whole.take place).map fun earlier => (ctx, earlier.2)
    let move := (visit.2.perform script settings ctx visit.1.cursor.seen visit.1.chance).move
    (∀ target, visit.2.directive? = some (.firstSwitch target) →
      JumpsIf script move target (∃ before, (before, visit.2) ∈ past ∧ visit.2.runsIn before = true)) ∧
    (∀ target, visit.2.directive? = some (.moodSwitch target) →
      JumpsIf script move target (∃ before, (before, visit.2) ∈ past ∧ visit.2.runsIn before = true ∧
        before.hasFlag .harsh = ctx.hasFlag .harsh)) ∧
    ∀ policy : Policy, policy.KeepsErrors → script.accepted policy = true →
      (visit.2.keyword? = some .firstSwitch → ∃ target place, visit.2.directive? = some (.firstSwitch target) ∧
        script.labels.line? target = some place) ∧
      (visit.2.keyword? = some .moodSwitch → ∃ target place, visit.2.directive? = some (.moodSwitch target) ∧
        script.labels.line? target = some place) := by
  intro script scene whole past move
  have entry : Remembers script (⟨(scene.cursors c).moveTo position, chance, presenter⟩ : Playback σ).cursor.seen
      (scene.past c) := Remembers.after script turns c
  obtain ⟨remembers, member⟩ := entry.visit settings ctx executed
  refine ⟨fun target written => ?_, fun target written => ?_,
    fun policy keeps accepted => defined_of_accepted keeps accepted member⟩
  · have jumps := remembers.jumpsIf member runs written rfl (fun _ => rfl) settings visit.1.chance
    have arrives : ∀ before, visit.2.arrivalIn before = some (.first visit.2.index) := by
      intro before
      rw [arrivalIn_eq, written]
      rfl
    simpa only [arrives, and_true] using jumps
  · have jumps := remembers.jumpsIf member runs written rfl (fun _ => rfl) settings visit.1.chance
    have arrives : ∀ before, visit.2.arrivalIn before = some (.mood visit.2.index (before.hasFlag .harsh)) := by
      intro before
      rw [arrivalIn_eq, written]
      rfl
    simpa only [arrives, Option.some.injEq, Arrival.mood.injEq, true_and] using jumps

/-- A cursor passes a switch, forgets it and passes it again, with a run on another cursor in between: the next time it
    jumps. -/
theorem jumpsIf_after_forgetting :
    let script := Script.parse "once" "firstswitch seen_end\nHero: Wait.\nlabel seen_end"
    let run (c : Bool) : Turn Tape Bool := .run c {} {} .beginning {} {}
    let scene := Scene.after script [run true, .forget true, run false, run true]
    let whole := Playback.visits script {} {} 1 (⟨(scene.cursors true).moveTo 0, {}, {}⟩ : Playback Tape)
    script.accepted {} = true ∧ ∃ visit, whole[0]? = some visit ∧
      visit.2.runsIn {} = true ∧
      (visit.2.perform script {} {} visit.1.cursor.seen visit.1.chance).move.toOption = some (.jump 2) ∧
      ∃ before, (before, visit.2) ∈ scene.past true ∧ visit.2.runsIn before = true := by
  intro script run scene whole
  have facts : script.accepted {} = true ∧ script.labels.line? "seen_end" = some 2 ∧
      (whole[0]?).map (fun visit => (visit.2.directive?, visit.2.runsIn {},
          (visit.2.perform script {} {} visit.1.cursor.seen visit.1.chance).move.toOption)) =
        some (some (.firstSwitch "seen_end"), true, some (.jump 2)) := by decide +kernel
  obtain ⟨accepted, bound, found⟩ := facts
  obtain ⟨visit, executed, told⟩ := Option.map_eq_some_iff.mp found
  simp only [Prod.mk.injEq] at told
  obtain ⟨written, runs, jumps⟩ := told
  obtain ⟨first, _⟩ := jumpsIf_of_history [run true, .forget true, run false, run true] true {} {} {} {} executed runs
  refine ⟨accepted, visit, executed, runs, jumps, ?_⟩
  by_contra never
  rw [(first _ written).goes_on.mpr (by simpa using never)] at jumps
  cases jumps

/-- Not every switch of an accepted script jumps or goes on. Where a label that the script does not define is only
    noted, the second arrival at a switch ends the run, and where its number of labels is only noted, the first
    does. -/
theorem not_jumpsIf_of_lost_label :
    let policy : Policy := { overrides := [(.autoswitchUnknownLabel, .note), (.autoswitchWrongArity, .note)] }
    let lost := Script.parse "lost" "firstswitch seen_x\njumpto 1"
    let double := Script.parse "double" "firstswitch seen_a seen_b"
    let state : Playback Tape := { chance := {} }
    lost.accepted policy = true ∧ double.accepted policy = true ∧
      (∃ again, (Playback.visits lost {} {} 3 state)[2]? = some again ∧ again.2.index = 0 ∧
        again.2.keyword? = some .firstSwitch ∧ again.2.runsIn {} = true ∧
        (again.2.perform lost {} {} again.1.cursor.seen again.1.chance).move = .error (.unknownLabel "seen_x")) ∧
      ∃ first, (Playback.visits double {} {} 1 state)[0]? = some first ∧ first.2.keyword? = some .firstSwitch ∧
        first.2.runsIn {} = true ∧ (first.2.perform double {} {} [] first.1.chance).move =
          .error (.malformedDirective 1 .firstSwitch) := by
  intro policy lost double state
  have facts : lost.accepted policy = true ∧ double.accepted policy = true ∧
      ((Playback.visits lost {} {} 3 state)[2]?).map (fun again => (again.2.index, again.2.keyword?, again.2.runsIn {},
        (again.2.perform lost {} {} again.1.cursor.seen again.1.chance).move)) =
        some (0, some .firstSwitch, true, .error (.unknownLabel "seen_x")) ∧
      ((Playback.visits double {} {} 1 state)[0]?).map (fun first => (first.2.keyword?, first.2.runsIn {},
        (first.2.perform double {} {} [] first.1.chance).move)) =
        some (some .firstSwitch, true, .error (.malformedDirective 1 .firstSwitch)) := by
    decide +kernel
  obtain ⟨accepted, accepted', found, found'⟩ := facts
  obtain ⟨again, executed, told⟩ := Option.map_eq_some_iff.mp found
  obtain ⟨first, executed', told'⟩ := Option.map_eq_some_iff.mp found'
  simp only [Prod.mk.injEq] at told told'
  exact ⟨accepted, accepted', ⟨again, executed, told⟩, first, executed', told'⟩

end Narrative
