import Mathlib.Data.List.Forall2
import Mathlib.Logic.Function.Basic
import Narrative.Proofs.Play.Endings
import Narrative.Script.Check

/-!
Matters of presentation. Chance, acknowledgements and the factor of pauses show in acknowledgements and in the lengths
of pauses, and nowhere else (`perform_presentation`). A player whose runs all draw on one source of chance is given
cues to run scripts on a number of cursors (`renditions`). Two players with the same limit on lines give the same
renditions, however long their pauses are and whether they wait or not (`renditions_match`).
-/
namespace Narrative

variable {σ : Type} [Generator σ]

namespace Call

/-- A call without the length of its pause; an acknowledgement is left out. -/
def matter? : Call → Option Call
  | present line => some (present line)
  | acknowledge => none
  | pause _ => some (pause .zero)
  | nowPlaying track => some (nowPlaying track)

/-- A call with the acknowledgement that comes right after it, if the player waits and the call presents a line
    without interruption. -/
def attended (wait : Bool) : Call → List Call
  | present line => present line :: if wait && !line.interrupt then [acknowledge] else []
  | call => [call]

/-- The acknowledgements among calls are those that attend the other calls. -/
def Paced (wait : Bool) (calls : List Call) : Prop := (calls.filter (· != acknowledge)).flatMap (attended wait) = calls

theorem Paced.append {wait : Bool} {first second : List Call} (early : Paced wait first) (late : Paced wait second) :
    Paced wait (first ++ second) := by
  rw [Paced, List.filter_append, List.flatMap_append, early, late]

end Call

section
variable (settings settings' : PlaySettings) (chance chance' : σ)

theorem Directive.calls_presentation (directive : Directive) :
    (directive.calls settings chance).1.filterMap Call.matter? =
        (directive.calls settings' chance').1.filterMap Call.matter? ∧
      Call.Paced settings.wait (directive.calls settings chance).1 := by
  cases directive with
  | pause min max =>
    by_cases fixed : min = max
    · simp [Directive.calls, fixed, Call.matter?, Call.Paced, Call.attended]
    · simp [Directive.calls, fixed, Call.matter?, Call.Paced, Call.attended]
  | nowPlaying track => simp [Directive.calls, Call.Paced, Call.attended]
  | _ => simp [Directive.calls, Call.Paced]

theorem Line.speech_presentation (line : Line) (speaker : Speaker) (text : String) :
    (line.speech settings speaker text).filterMap Call.matter? =
        (line.speech settings' speaker text).filterMap Call.matter? ∧
      Call.Paced settings.wait (line.speech settings speaker text) := by
  have bare : ∀ wait : Bool,
      (if wait && !line.hasInterrupt then [Call.acknowledge] else []).filterMap Call.matter? = [] := by
    intro wait
    split <;> simp [Call.matter?]
  constructor
  · simp only [Line.speech, List.filterMap_cons, bare]
  · by_cases waits : settings.wait && !line.hasInterrupt
    · simp [Line.speech, Call.Paced, Call.attended, waits]
    · simp [Line.speech, Call.Paced, Call.attended, waits]

/-- What the settings and chance decide about the calls of a line is how long it pauses and whether it waits. -/
theorem perform_presentation (script : Script) (ctx : Context) (seen : List Arrival) (line : Line) :
    (line.perform script settings ctx seen chance).calls.filterMap Call.matter? =
        (line.perform script settings' ctx seen chance').calls.filterMap Call.matter? ∧
      Call.Paced settings.wait (line.perform script settings ctx seen chance).calls := by
  by_cases runs : line.runsIn ctx = true
  · cases content : line.content with
    | blank => simp [Line.perform, runs, content, Call.Paced]
    | dialogue speaker text unknown =>
      simpa [Line.perform, runs, content] using line.speech_presentation settings settings' speaker text
    | directive keyword args =>
      cases read : Directive.read keyword args with
      | error fault => simp [Line.perform, runs, content, read, Call.Paced]
      | ok directive =>
        have presented := directive.calls_presentation settings settings' chance chance'
        cases arrives : directive.arrival? ctx line.index with
        | none => simpa [Line.perform, runs, content, read, arrives] using presented
        | some arrival => simpa [Line.perform, runs, content, read, arrives] using presented
  · simp [Line.perform, runs, Call.Paced]

end

/-- Two playbacks at one cursor, whose presenters never fail and have heard the same but for matters of presentation. -/
structure InTune (wait wait' : Bool) (state other : Playback σ) : Prop where
  cursor : state.cursor = other.cursor
  unfailing : state.presenter.allowance = none
  unfailing' : other.presenter.allowance = none
  matter : state.presenter.calls.toList.filterMap Call.matter? = other.presenter.calls.toList.filterMap Call.matter?
  paced : Call.Paced wait state.presenter.calls.toList
  paced' : Call.Paced wait' other.presenter.calls.toList

namespace InTune
variable {script : Script} {settings settings' : PlaySettings} {ctx : Context} {state other : Playback σ}

theorem step {next : Playback σ} {line : Line} {verdict : Option Ending}
    (tune : InTune settings.wait settings'.wait state other)
    (step : state.step script settings ctx line = (next, verdict)) :
    ∃ next', other.step script settings' ctx line = (next', verdict) ∧
      InTune settings.wait settings'.wait next next' := by
  obtain ⟨same, unfailing, unfailing', matter, paced, paced'⟩ := tune
  obtain ⟨next', step', reached⟩ := Playback.step_of_same settings' same unfailing unfailing' step
  have heard := Playback.calls_of_step unfailing step
  have heard' := Playback.calls_of_step unfailing' step'
  obtain ⟨presented, own⟩ := perform_presentation settings settings' state.chance other.chance script ctx
    state.cursor.seen line
  have own' := (perform_presentation settings' settings other.chance state.chance script ctx state.cursor.seen line).2
  rw [← same] at heard'
  refine ⟨next', step', reached, Playback.allowance_of_step unfailing step,
    Playback.allowance_of_step unfailing' step', ?_, ?_, ?_⟩
  · rw [heard, heard', List.filterMap_append, List.filterMap_append, matter, presented]
  · rw [heard]
    exact paced.append own
  · rw [heard']
    exact paced'.append own'

/-- Runs from the same start at the same cursor stay in tune as far as they come, and end in the same way. -/
theorem run (script : Script) (ctx : Context) (limit : settings.stepLimit = settings'.stepLimit) (start : Start)
    (tune : InTune settings.wait settings'.wait state other) :
    InTune settings.wait settings'.wait (script.run settings ctx start state).1
        (script.run settings' ctx start other).1 ∧
      (script.run settings ctx start state).2 = (script.run settings' ctx start other).2 := by
  have limits : script.allowed settings state.presenter = script.allowed settings' other.presenter := by
    rw [Script.allowed, Script.allowed, limit, tune.unfailing, tune.unfailing']
  have cuts : Script.cutOff settings = Script.cutOff settings' := by rw [Script.cutOff, Script.cutOff, limit]
  have enters : script.entry ctx state.cursor start = script.entry ctx other.cursor start := by rw [tune.cursor]
  refine Script.run_simulate (R := InTune settings.wait settings'.wait) ?_ ?_ enters limits cuts tune ?_
  · intro state other tune outside
    rwa [← tune.cursor]
  · intro state other next line verdict tune here step
    obtain ⟨next', step', tune'⟩ := tune.step step
    exact ⟨line, next', tune.cursor ▸ here, step', tune'⟩
  · intro position
    obtain ⟨same, unfailing, unfailing', matter, paced, paced'⟩ := tune
    exact ⟨by rw [same], unfailing, unfailing', matter, paced, paced'⟩

end InTune

/-- What a player is asked to do with cursors, which have names. -/
inductive Cue (κ : Type) where
  | run (cursor : κ) (ctx : Context) (start : Start)
  /-- The arrivals of a cursor are forgotten. -/
  | forget (cursor : κ)

/-- A run as it is seen from outside: the calls that it makes, how it ends, and where it leaves its cursor. Of a run
    that never ends, these are the calls and the cursor after as many lines as it takes to tell. -/
structure Rendition where
  calls : List Call
  ending : Ending
  cursor : Cursor

/-- The runs of a player on cues, one after the other. They draw on one source of chance, whatever their cursors. After
    a run that never ends comes no other. -/
def renditions {κ : Type} [DecidableEq κ] (scripts : κ → Script) (settings : PlaySettings) (cursors : κ → Cursor)
    (chance : σ) : List (Cue κ) → List Rendition
  | [] => []
  | .forget c :: rest => renditions scripts settings (Function.update cursors c (cursors c).forget) chance rest
  | .run c ctx start :: rest =>
    let outcome := (scripts c).run settings ctx start ⟨cursors c, chance, {}⟩
    ⟨outcome.1.presenter.calls.toList, outcome.2, outcome.1.cursor⟩ ::
      if outcome.2 = .endless then []
      else renditions scripts settings (Function.update cursors c outcome.1.cursor) outcome.1.chance rest

/-- Two runs are the same but for matters of presentation. Each acknowledges the lines that its player waits for. -/
structure Rendition.Matches (wait wait' : Bool) (p q : Rendition) : Prop where
  ending : p.ending = q.ending
  cursor : p.cursor = q.cursor
  matter : p.calls.filterMap Call.matter? = q.calls.filterMap Call.matter?
  paced : Call.Paced wait p.calls
  paced' : Call.Paced wait' q.calls

/-- The seed, the waiting and the factor of pauses are matters of presentation. Two players with the same limit on
    lines, given the same cues, give the same renditions: the same lines, tracks and pauses in the same order, the same
    endings, and the same places and arrivals of their cursors. The lengths of pauses may differ, and each player
    has exactly the acknowledgements that its own waiting asks for. -/
theorem renditions_match {σ : Type} [Generator σ] {κ : Type} [DecidableEq κ] (scripts : κ → Script)
    {settings settings' : PlaySettings} (limit : settings.stepLimit = settings'.stepLimit) (cursors : κ → Cursor)
    (chance chance' : σ) (cues : List (Cue κ)) :
    List.Forall₂ (Rendition.Matches settings.wait settings'.wait)
      (renditions scripts settings cursors chance cues) (renditions scripts settings' cursors chance' cues) := by
  induction cues generalizing cursors chance chance' with
  | nil => exact .nil
  | cons cue rest ih =>
    cases cue with
    | forget c => exact ih _ chance chance'
    | run c ctx start =>
      have fresh : InTune settings.wait settings'.wait ⟨cursors c, chance, {}⟩ ⟨cursors c, chance', {}⟩ :=
        ⟨rfl, rfl, rfl, rfl, rfl, rfl⟩
      obtain ⟨tune, ended⟩ := fresh.run (scripts c) ctx limit start
      simp only [renditions]
      refine .cons ⟨ended, tune.cursor, tune.matter, tune.paced, tune.paced'⟩ ?_
      rw [← ended, ← tune.cursor]
      split
      · exact .nil
      · exact ih _ _ _

/-- Two players on two cursors: the second one hurries, with other numbers drawn and no acknowledgements. A cursor that
    forgets its arrivals between two runs passes its switch anew. -/
theorem renditions_match_of_hurry :
    let script := Script.parse "loop"
      ("Hero: Look. /// interrupt\npause 1 3\nHero: Wait.\nfirstswitch seen_end\njumpto 1\n" ++
        "label seen_end\nbreak /// hasblade")
    let settings : PlaySettings := {}
    let hurried : PlaySettings := { seed := 7, wait := false, pauseScale := 0 }
    let ctx : Context := { blade := .held }
    let cues : List (Cue Bool) :=
      [.run true ctx .beginning, .run false {} .beginning, .forget true, .run true ctx .beginning]
    let chance : Tape := ⟨[1, 3, 2, 1]⟩
    let chance' : Tape := ⟨[3, 2, 2, 1]⟩
    let performed := renditions (fun _ => script) settings (fun _ => {}) chance cues
    script.accepted {} = true ∧ settings.stepLimit = hurried.stepLimit ∧
      performed.map (fun p => (p.ending, p.cursor.position, p.calls.length)) =
        [(.broke, 7, 8), (.finished, 7, 8), (.broke, 7, 8)] ∧
      List.Forall₂ (Rendition.Matches true false) performed
        (renditions (fun _ => script) hurried (fun _ => {}) chance' cues) := by
  intro script settings hurried ctx cues chance chance' performed
  have facts : script.accepted {} = true ∧ performed.map (fun p => (p.ending, p.cursor.position, p.calls.length)) =
      [(.broke, 7, 8), (.finished, 7, 8), (.broke, 7, 8)] := by decide +kernel
  have limit : settings.stepLimit = hurried.stepLimit := rfl
  exact ⟨facts.1, limit, facts.2,
    renditions_match (fun _ => script) limit (fun _ => {}) chance chance' cues⟩

end Narrative
