import Narrative.Play.Run
import Narrative.Proofs.Script.Lines

/-!
Where a line leads. What a line remembers and where the run goes after it depend on the script, the story state
and the arrivals so far (`perform_congr`), of the script only its labels and its size count (`perform_of_same`),
and the presenter only matters where it fails (`step_eq`). A directive whose gates let it run does what it says
(`perform_of_directive`). There are five ways on from a line (`goes_of_perform`), and those that do not end the run
lead to the next line or to the target of a jump (`Playback.move_of_next`). A line remembers at most its own arrival
(`seen_of_perform`), and one that calls the presenter remembers nothing and goes on to the next line
(`perform_of_calls`).
-/
namespace Narrative

variable {σ : Type} [Generator σ]

/-- What a line does is in its place, what it says or does, and what its modifiers come to. -/
theorem perform_of_same {script script' : Script} (labels : script'.labels = script.labels)
    (size : script'.size = script.size) {line line' : Line} {ctx : Context} (index : line'.index = line.index)
    (content : line'.content = line.content) (runs : line'.runsIn ctx = line.runsIn ctx)
    (interrupt : line'.hasInterrupt = line.hasInterrupt) (gate : line'.hasFlagGate = line.hasFlagGate)
    (settings : PlaySettings) (seen : List Arrival) (chance : σ) :
    line'.perform script' settings ctx seen chance = line.perform script settings ctx seen chance := by
  have number : line'.number = line.number := by rw [Line.number, Line.number, index]
  have speech : ∀ speaker text, line'.speech settings speaker text = line.speech settings speaker text := by
    intro speaker text
    simp only [Line.speech, number, interrupt]
  have goes : ∀ label, script'.goTo label = script.goTo label := by
    intro label
    rw [Script.goTo, Script.goTo, labels]
  have route : ∀ again directive,
      Directive.route script' ctx line' again directive = Directive.route script ctx line again directive := by
    intro again directive
    cases directive with
    | jumpto target =>
      cases target with
      | label name => exact goes name
      | line n => simp only [Directive.route, number, size]
    | halt => simp only [Directive.route, gate]
    | label _ | pause _ _ | nowPlaying _ => rfl
    | _ => simp only [Directive.route, goes, number, labels]
  simp only [Line.perform, runs, content, speech, route, number, index]

/-- A line that keeps its place, its content and its modifiers does the same, whatever its bytes in the source are. -/
theorem perform_of_kept {script script' : Script} (labels : script'.labels = script.labels)
    (size : script'.size = script.size) {line line' : Line} (index : line'.index = line.index)
    (content : line'.content = line.content) (modifiers : line'.modifiers = line.modifiers) (settings : PlaySettings)
    (ctx : Context) (seen : List Arrival) (chance : σ) :
    line'.perform script' settings ctx seen chance = line.perform script settings ctx seen chance := by
  have runs : line'.runsIn ctx = line.runsIn ctx := by
    simp only [Line.runsIn, Line.gates, Line.persona?, Line.speaker?, content, modifiers]
  have interrupt : line'.hasInterrupt = line.hasInterrupt := by rw [Line.hasInterrupt, Line.hasInterrupt, modifiers]
  have gate : line'.hasFlagGate = line.hasFlagGate := by rw [Line.hasFlagGate, Line.hasFlagGate, modifiers]
  exact perform_of_same labels size index content runs interrupt gate settings seen chance

/-- A directive whose gates let it run makes its calls, is remembered if it is a switch that remembers, and leads where
    its route does. -/
theorem perform_of_directive {ctx : Context} {line : Line} {directive : Directive} (runs : line.runsIn ctx = true)
    (written : line.directive? = some directive) (script : Script) (settings : PlaySettings) (seen : List Arrival)
    (chance : σ) :
    line.perform script settings ctx seen chance =
      ⟨(directive.calls settings chance).1, (directive.arrival? ctx line.index).elim seen (arrive seen),
        (directive.calls settings chance).2,
        directive.route script ctx line ((directive.arrival? ctx line.index).any seen.contains)⟩ := by
  obtain ⟨keyword, args, content, read⟩ := Line.directive?_eq_some_iff.mp written
  cases arrives : directive.arrival? ctx line.index with
  | none => simp [Line.perform, runs, content, read, arrives]
  | some arrival => simp [Line.perform, runs, content, read, arrives]

theorem runsIn_of_ungated {line : Line} (ungated : line.gates.isEmpty = true) (ctx : Context) :
    line.runsIn ctx = true := by
  rw [Line.runsIn, Option.isNone_iff_eq_none, Gates.blockedBy_eq_none]
  simp only [Gates.isEmpty, Bool.and_eq_true, List.isEmpty_iff] at ungated
  obtain ⟨⟨flags, personas⟩, context⟩ := ungated
  intro c member
  rw [Gates.conditions, flags, personas, context] at member
  cases member

section
variable (script : Script) (settings : PlaySettings) (ctx : Context) (seen : List Arrival) (chance : σ)
  {line : Line}

theorem perform_of_blank (blank : line.content = .blank) :
    line.perform script settings ctx seen chance = ⟨[], seen, chance, .ok .next⟩ := by
  simp [Line.perform, blank]

theorem perform_of_blocked (blocked : line.runsIn ctx = false) :
    line.perform script settings ctx seen chance = ⟨[], seen, chance, .ok .next⟩ := by
  simp [Line.perform, blocked]

end

section
variable (script : Script) (ctx : Context) (line : Line) (seen : List Arrival)

/-- What a line can do about the cursor: pass it by, fail to be read, or send it where its directive does, after
    an arrival if the directive remembers one. -/
theorem perform_cases (settings : PlaySettings) (chance : σ) :
    let effect := line.perform script settings ctx seen chance
    (effect.seen = seen ∧ effect.move = .ok .next) ∨
      (∃ keyword, effect.seen = seen ∧ effect.move = .error (.malformedDirective line.number keyword)) ∨
      ∃ keyword args directive, line.content = .directive keyword args ∧ Directive.read keyword args = .ok directive ∧
        ((directive.arrival? ctx line.index = none ∧ effect.seen = seen ∧
            effect.move = directive.route script ctx line false) ∨
          ∃ arrival, directive.arrival? ctx line.index = some arrival ∧ effect.seen = arrive seen arrival ∧
            effect.move = directive.route script ctx line (seen.contains arrival)) := by
  intro effect
  by_cases runs : line.runsIn ctx = true
  · cases content : line.content with
    | blank => exact .inl (by simp [effect, Line.perform, runs, content])
    | dialogue speaker text unknown => exact .inl (by simp [effect, Line.perform, runs, content])
    | directive keyword args =>
      cases read : Directive.read keyword args with
      | error fault => exact .inr (.inl ⟨keyword, by simp [effect, Line.perform, runs, content, read]⟩)
      | ok directive =>
        refine .inr (.inr ⟨keyword, args, directive, rfl, read, ?_⟩)
        cases arrives : directive.arrival? ctx line.index with
        | none => exact .inl ⟨rfl, by simp [effect, Line.perform, runs, content, read, arrives]⟩
        | some arrival => exact .inr ⟨arrival, rfl, by simp [effect, Line.perform, runs, content, read, arrives]⟩
  · exact .inl (by simp [effect, Line.perform, runs])

/-- Neither chance nor the settings have a say in where a line leads. -/
theorem perform_congr (settings settings' : PlaySettings) (chance chance' : σ) :
    (line.perform script settings ctx seen chance).seen = (line.perform script settings' ctx seen chance').seen ∧
      (line.perform script settings ctx seen chance).move = (line.perform script settings' ctx seen chance').move := by
  by_cases runs : line.runsIn ctx = true
  · cases content : line.content with
    | blank => simp [Line.perform, runs, content]
    | dialogue speaker text unknown => simp [Line.perform, runs, content]
    | directive keyword args =>
      cases read : Directive.read keyword args with
      | error fault => simp [Line.perform, runs, content, read]
      | ok directive =>
        cases arrives : directive.arrival? ctx line.index with
        | none => simp [Line.perform, runs, content, read, arrives]
        | some arrival => simp [Line.perform, runs, content, read, arrives]
  · simp [Line.perform, runs]

/-- Nor does chance have a say in the number of calls. -/
theorem length_calls_perform (settings : PlaySettings) (chance chance' : σ) :
    (line.perform script settings ctx seen chance).calls.length =
      (line.perform script settings ctx seen chance').calls.length := by
  by_cases runs : line.runsIn ctx = true
  · cases content : line.content with
    | blank => simp [Line.perform, runs, content]
    | dialogue speaker text unknown => simp [Line.perform, runs, content]
    | directive keyword args =>
      cases read : Directive.read keyword args with
      | error fault => simp [Line.perform, runs, content, read]
      | ok directive =>
        have written : line.directive? = some directive :=
          Line.directive?_eq_some_iff.mpr ⟨keyword, args, content, read⟩
        rw [perform_of_directive runs written, perform_of_directive runs written]
        cases directive with
        | pause min max => simp [Directive.calls]
        | _ => rfl
  · simp [Line.perform, runs]

/-- A line that makes a call is no switch and no jump: all that it does besides is to go on. -/
theorem perform_of_calls (settings : PlaySettings) (chance : σ)
    (speaks : (line.perform script settings ctx seen chance).calls ≠ []) :
    (line.perform script settings ctx seen chance).seen = seen ∧
      (line.perform script settings ctx seen chance).move = .ok .next := by
  by_cases runs : line.runsIn ctx = true
  · cases content : line.content with
    | blank => simp [Line.perform, runs, content]
    | dialogue speaker text unknown => simp [Line.perform, runs, content]
    | directive keyword args =>
      cases read : Directive.read keyword args with
      | error fault => simp [Line.perform, runs, content, read] at speaks
      | ok directive =>
        cases directive with
        | pause min max | nowPlaying track =>
          simp [Line.perform, runs, content, read, Directive.arrival?, Directive.route]
        | _ => simp [Line.perform, runs, content, read, Directive.calls, Directive.arrival?] at speaks
  · simp [Line.perform, runs]

end

/-! ### Ways on -/

/-- Whether a line is a halt that can be read. -/
def Line.isHalt (line : Line) : Bool := line.directive? == some .halt

/-- Where a line can lead: to the next one, to the end of the run if it is a halt, to a bound label, to a line that
    exists, or into a fault, which is never that of the number of lines. -/
inductive Line.Goes (script : Script) (line : Line) : Except Fault Move → Prop where
  | next : Goes script line (.ok .next)
  | halt (halts : line.isHalt = true) : Goes script line (.ok .halt)
  | bound {label : String} {place : Nat} (bound : script.labels.line? label = some place) :
      Goes script line (.ok (.jump place))
  | inRange {n : Int} (low : 1 ≤ n) (high : n ≤ script.size) : Goes script line (.ok (.jump (n.toNat - 1)))
  | fault {fault : Fault} (free : ∀ limit, fault ≠ .stepLimit limit) : Goes script line (.error fault)

theorem goes_of_goTo (script : Script) (line : Line) (label : String) : line.Goes script (script.goTo label) := by
  unfold Script.goTo
  split
  · rename_i place bound
    exact .bound bound
  · exact .fault (by simp)

theorem goes_of_route {script : Script} {line : Line} {directive : Directive}
    (written : line.directive? = some directive) (ctx : Context) (again : Bool) :
    line.Goes script (directive.route script ctx line again) := by
  cases directive with
  | label _ | pause _ _ | nowPlaying _ => exact .next
  | halt =>
    simp only [Directive.route]
    split
    · exact .halt (beq_iff_eq.mpr written)
    · exact .next
  | jumpto target =>
    cases target with
    | label name => exact goes_of_goTo script line name
    | line n =>
      simp only [Directive.route]
      split
      · rename_i inside
        simp only [Bool.and_eq_true, decide_eq_true_eq] at inside
        exact .inRange inside.1 inside.2
      · exact .fault (by simp)
  | firstSwitch target | moodSwitch target =>
    simp only [Directive.route]
    split
    · exact goes_of_goTo script line target
    · exact .next
  | bladeSwitch held former never => exact goes_of_goTo script line _
  | sourceSwitch base =>
    simp only [Directive.route]
    split
    · rename_i chosen found
      exact .bound (LabelTable.line?_of_suffixed found)
    · exact .fault (by simp)
  | switchJump labels | numSwitchJump labels | stringSwitchJump labels =>
    simp only [Directive.route]
    split
    · exact goes_of_goTo script line _
    · exact .fault (by simp)

theorem goes_of_perform (script : Script) (settings : PlaySettings) (ctx : Context) (seen : List Arrival)
    (chance : σ) (line : Line) :
    line.Goes script (line.perform script settings ctx seen chance).move := by
  rcases perform_cases script ctx line seen settings chance with
    ⟨_, move⟩ | ⟨_, _, move⟩ | ⟨keyword, args, directive, content, read, ⟨_, _, move⟩ | ⟨_, _, _, move⟩⟩
  · rw [move]
    exact .next
  · rw [move]
    exact .fault (by simp)
  all_goals
    rw [move]
    exact goes_of_route (Line.directive?_eq_some_iff.mpr ⟨keyword, args, content, read⟩) ctx _

theorem move_ne_stepLimit (script : Script) (settings : PlaySettings) (ctx : Context) (seen : List Arrival)
    (chance : σ) (line : Line) (limit : Nat) :
    (line.perform script settings ctx seen chance).move ≠ .error (.stepLimit limit) := by
  have goes := goes_of_perform script settings ctx seen chance line
  intro faulty
  rw [faulty] at goes
  cases goes with
  | fault free => exact free limit rfl

theorem isHalt_of_move {script : Script} {settings : PlaySettings} {ctx : Context} {seen : List Arrival}
    {chance : σ} {line : Line} (halts : (line.perform script settings ctx seen chance).move = .ok .halt) :
    line.isHalt = true := by
  have goes := goes_of_perform script settings ctx seen chance line
  rw [halts] at goes
  cases goes with
  | halt halts => exact halts

/-! ### Arrivals -/

/-- What an arrival at a line is remembered as, if the line remembers any. -/
def Line.arrivalIn (ctx : Context) (line : Line) : Option Arrival :=
  match line.content with
  | .directive keyword args => (Directive.read keyword args).toOption.bind (·.arrival? ctx line.index)
  | _ => none

/-- A line remembers nothing, or its own arrival where that is new. -/
theorem seen_of_perform (script : Script) (settings : PlaySettings) (ctx : Context) (seen : List Arrival)
    (chance : σ) (line : Line) :
    (line.perform script settings ctx seen chance).seen = seen ∨
      ∃ arrival, line.arrivalIn ctx = some arrival ∧ arrival ∉ seen ∧
        (line.perform script settings ctx seen chance).seen = arrival :: seen := by
  rcases perform_cases script ctx line seen settings chance with
    ⟨kept, _⟩ | ⟨_, kept, _⟩ | ⟨keyword, args, directive, content, read, ⟨_, kept, _⟩ | ⟨arrival, arrives, kept, _⟩⟩
  · exact .inl kept
  · exact .inl kept
  · exact .inl kept
  · by_cases known : arrival ∈ seen
    · exact .inl (by simp [kept, arrive, known])
    · exact .inr ⟨arrival, by simp [Line.arrivalIn, content, read, Except.toOption, arrives], known,
        by simp [kept, arrive, known]⟩

/-- After a line, what was remembered before is, and its arrival if its gates let it run. -/
theorem mem_seen_of_perform (script : Script) (settings : PlaySettings) (ctx : Context) (seen : List Arrival)
    (chance : σ) (line : Line) (arrival : Arrival) :
    arrival ∈ (line.perform script settings ctx seen chance).seen ↔
      arrival ∈ seen ∨ (line.runsIn ctx = true ∧ line.arrivalIn ctx = some arrival) := by
  by_cases runs : line.runsIn ctx = true
  · cases content : line.content with
    | blank | dialogue speaker text unknown => simp [Line.perform, runs, content, Line.arrivalIn]
    | directive keyword args =>
      cases read : Directive.read keyword args with
      | error fault => simp [Line.perform, runs, content, read, Line.arrivalIn, Except.toOption]
      | ok directive =>
        cases arrives : directive.arrival? ctx line.index with
        | none => simp [Line.perform, runs, content, read, arrives, Line.arrivalIn, Except.toOption]
        | some own =>
          by_cases known : own ∈ seen
          · have kept : own = arrival → arrival ∈ seen := by
              rintro rfl
              exact known
            simpa [Line.perform, runs, content, read, arrives, Line.arrivalIn, Except.toOption, arrive, known]
              using kept
          · simp [Line.perform, runs, content, read, arrives, Line.arrivalIn, Except.toOption, arrive, known,
              or_comm, eq_comm]
  · simp [Line.perform, runs]

/-! ### Steps -/

/-- Where an effect leaves a cursor that was at a position, and how it ends the run, if it does. -/
def Effect.course (effect : Effect σ) (position : Nat) : Cursor × Option Ending :=
  match effect.move with
  | .error fault => (⟨position, effect.seen⟩, some (.fault fault))
  | .ok .next => (⟨position + 1, effect.seen⟩, none)
  | .ok (.jump target) => (⟨target, effect.seen⟩, none)
  | .ok .halt => (⟨position + 1, effect.seen⟩, some .broke)

section
omit [Generator σ]

theorem Effect.course_seen (effect : Effect σ) (position : Nat) : (effect.course position).1.seen = effect.seen := by
  unfold course
  split <;> rfl

theorem Effect.course_congr {a b : Effect σ} (seen : a.seen = b.seen) (move : a.move = b.move) (position : Nat) :
    a.course position = b.course position := by
  simp only [course, seen, move]

theorem Effect.course_broke {effect : Effect σ} {position : Nat} (breaks : (effect.course position).2 = some .broke) :
    effect.move = .ok .halt ∧ (effect.course position).1.position = position + 1 := by
  unfold course at breaks ⊢
  split at breaks
  · cases breaks
  · cases breaks
  · cases breaks
  · rename_i halts
    exact ⟨halts, rfl⟩

theorem Effect.course_none {effect : Effect σ} {position : Nat} (continues : (effect.course position).2 = none) :
    (effect.move = .ok .next ∧ (effect.course position).1.position = position + 1) ∨
      effect.move = .ok (.jump (effect.course position).1.position) := by
  unfold course at continues ⊢
  split at continues
  · cases continues
  · rename_i passes
    exact .inl ⟨passes, rfl⟩
  · rename_i target jumps
    exact .inr jumps
  · cases continues

end

namespace Presenter

/-- A presenter that never fails receives every call. -/
theorem receiveAll_of_unfailing {p : Presenter} (unfailing : p.allowance = none) (calls : List Call) :
    p.receiveAll calls = ({ p with calls := p.calls ++ calls.toArray }, true) := by
  induction calls generalizing p with
  | nil => simp [receiveAll]
  | cons call rest ih =>
    have received : p.receive? call = some { p with calls := p.calls.push call } := by
      simp [receive?, unfailing, Allowance.spend?]
    rw [receiveAll, received]
    have later : ({ p with calls := p.calls.push call } : Presenter).allowance = none := unfailing
    have pushed : p.calls.push call ++ rest.toArray = p.calls ++ (call :: rest).toArray := by
      rw [← Array.toList_inj]
      simp
    simp only [ih later, pushed]

/-- A call costs the presenter one use. -/
theorem allowance_of_receiveAll (p : Presenter) (calls : List Call) :
    (p.receiveAll calls).1.allowance = p.allowance.map (· - calls.length) := by
  induction calls generalizing p with
  | nil => cases left : p.allowance <;> simp [receiveAll, left]
  | cons call rest ih =>
    rw [receiveAll, receive?]
    cases left : p.allowance with
    | none => simp [Allowance.spend?, ih]
    | some uses =>
      cases uses with
      | zero => simp [Allowance.spend?, left]
      | succ more => simp [Allowance.spend?, ih]

/-- A presenter receives as many calls as it has uses left. -/
theorem success_of_receiveAll (p : Presenter) (calls : List Call) :
    (p.receiveAll calls).2 = p.allowance.all (calls.length ≤ ·) := by
  induction calls generalizing p with
  | nil => cases left : p.allowance <;> simp [receiveAll]
  | cons call rest ih =>
    rw [receiveAll, receive?]
    cases left : p.allowance with
    | none => simp [Allowance.spend?, ih]
    | some uses =>
      cases uses with
      | zero => simp [Allowance.spend?]
      | succ more => simp [Allowance.spend?, ih]

end Presenter

namespace Playback

section
variable (script : Script) (settings : PlaySettings) (ctx : Context) (state : Playback σ) (line : Line)

/-- A line makes its calls, and unless the presenter fails at one of them it takes its course. -/
theorem step_eq :
    state.step script settings ctx line =
      let effect := line.perform script settings ctx state.cursor.seen state.chance
      let heard := state.presenter.receiveAll effect.calls
      if heard.2 then
        (⟨(effect.course state.cursor.position).1, effect.chance, heard.1⟩, (effect.course state.cursor.position).2)
      else (⟨⟨state.cursor.position, effect.seen⟩, effect.chance, heard.1⟩, some .deviceFailed) := by
  unfold step
  generalize line.perform script settings ctx state.cursor.seen state.chance = effect
  cases received : state.presenter.receiveAll effect.calls with
  | mk presenter success =>
    cases success with
    | false => simp [received]
    | true =>
      cases move : effect.move with
      | error fault => simp [received, Effect.course, move]
      | ok destination => cases destination <;> simp [received, Effect.course, move]

theorem allowance_step :
    (state.step script settings ctx line).1.presenter.allowance = state.presenter.allowance.map
      (· - (line.perform script settings ctx state.cursor.seen state.chance).calls.length) := by
  rw [step_eq]
  dsimp only
  split <;> exact Presenter.allowance_of_receiveAll _ _

theorem seen_step :
    (state.step script settings ctx line).1.cursor.seen =
      (line.perform script settings ctx state.cursor.seen state.chance).seen := by
  rw [step_eq]
  dsimp only
  split
  · exact Effect.course_seen _ _
  · rfl

/-- A line remembers nothing, or its own arrival where that is new, even if the presenter fails at it. -/
theorem seen_of_step :
    (state.step script settings ctx line).1.cursor.seen = state.cursor.seen ∨
      ∃ arrival, line.arrivalIn ctx = some arrival ∧ arrival ∉ state.cursor.seen ∧
        (state.step script settings ctx line).1.cursor.seen = arrival :: state.cursor.seen := by
  rw [seen_step]
  exact seen_of_perform script settings ctx state.cursor.seen state.chance line

/-- A line ends the run by a halt, by a failure of the presenter, or by a fault of its own. -/
theorem ending_of_step {last : Playback σ} {ending : Ending}
    (ends : state.step script settings ctx line = (last, some ending)) :
    ending = .broke ∨ ending = .deviceFailed ∨ ∃ fault, ending = .fault fault ∧
      (line.perform script settings ctx state.cursor.seen state.chance).move = .error fault := by
  rw [step_eq] at ends
  dsimp only at ends
  split at ends
  · have verdict := (Prod.mk.inj ends).2
    unfold Effect.course at verdict
    split at verdict
    · rename_i fault faulty
      cases verdict
      exact .inr (.inr ⟨fault, rfl, faulty⟩)
    · cases verdict
    · cases verdict
    · cases verdict
      exact .inl rfl
  · cases ends
    exact .inr (.inl rfl)

/-- A line that does not end the run passes it on to the next line or jumps. -/
theorem move_of_next {next : Playback σ} (continues : state.step script settings ctx line = (next, none)) :
    let move := (line.perform script settings ctx state.cursor.seen state.chance).move
    (move = .ok .next ∧ next.cursor.position = state.cursor.position + 1) ∨
      move = .ok (.jump next.cursor.position) := by
  intro move
  rw [step_eq] at continues
  dsimp only at continues
  split at continues
  · obtain ⟨reached, verdict⟩ := Prod.mk.inj continues
    rw [← reached]
    exact Effect.course_none verdict
  · cases continues

/-- A line that breaks off the run is a halt, and leaves the cursor on the line after it. -/
theorem isHalt_of_step {last : Playback σ} (breaks : state.step script settings ctx line = (last, some .broke)) :
    line.isHalt = true ∧ last.cursor.position = state.cursor.position + 1 := by
  rw [step_eq] at breaks
  dsimp only at breaks
  split at breaks
  · obtain ⟨reached, ended⟩ := Prod.mk.inj breaks
    obtain ⟨halts, after⟩ := Effect.course_broke ended
    exact ⟨isHalt_of_move halts, by rw [← reached, after]⟩
  · cases breaks

/-- A presenter that never fails lets a line take its course. -/
theorem step_of_unfailing (unfailing : state.presenter.allowance = none) :
    let effect := line.perform script settings ctx state.cursor.seen state.chance
    state.step script settings ctx line =
      (⟨(effect.course state.cursor.position).1, effect.chance,
        { state.presenter with calls := state.presenter.calls ++ effect.calls.toArray }⟩,
        (effect.course state.cursor.position).2) := by
  intro effect
  rw [step_eq]
  simp only [Presenter.receiveAll_of_unfailing unfailing, if_true]
  rfl

end

section
variable {script : Script} {settings : PlaySettings} {ctx : Context} {state next : Playback σ} {line : Line}
  {verdict : Option Ending}

/-- A presenter that never fails never fails later. -/
theorem allowance_of_step (unfailing : state.presenter.allowance = none)
    (step : state.step script settings ctx line = (next, verdict)) : next.presenter.allowance = none := by
  have left := allowance_step script settings ctx state line
  rwa [step, unfailing] at left

/-- The calls of a line come after those before it. -/
theorem calls_of_step (unfailing : state.presenter.allowance = none)
    (step : state.step script settings ctx line = (next, verdict)) :
    next.presenter.calls.toList = state.presenter.calls.toList ++
      (line.perform script settings ctx state.cursor.seen state.chance).calls := by
  rw [step_of_unfailing _ _ _ _ _ unfailing] at step
  rw [← (Prod.mk.inj step).1]
  simp

/-- With presenters that never fail, a line leads from the same cursor to the same cursor, whatever the settings are
    and whatever was drawn and heard before. -/
theorem step_of_same (settings' : PlaySettings) {other : Playback σ} (same : state.cursor = other.cursor)
    (unfailing : state.presenter.allowance = none) (unfailing' : other.presenter.allowance = none)
    (step : state.step script settings ctx line = (next, verdict)) :
    ∃ next', other.step script settings' ctx line = (next', verdict) ∧ next.cursor = next'.cursor := by
  obtain ⟨seen, move⟩ := perform_congr script ctx line other.cursor.seen settings settings' state.chance other.chance
  have course := Effect.course_congr seen move other.cursor.position
  rw [step_of_unfailing _ _ _ _ _ unfailing, same, course] at step
  obtain ⟨reached, ended⟩ := Prod.mk.inj step
  rw [step_of_unfailing _ _ _ _ _ unfailing', ended]
  exact ⟨_, rfl, by rw [← reached]⟩

/-- With presenters that have as many uses left, a line leads from the same cursor to the same cursor, and leaves them
    with as many uses. -/
theorem step_of_level {other : Playback σ} (same : state.cursor = other.cursor)
    (level : state.presenter.allowance = other.presenter.allowance)
    (step : state.step script settings ctx line = (next, verdict)) :
    ∃ next', other.step script settings ctx line = (next', verdict) ∧ next.cursor = next'.cursor ∧
      next.presenter.allowance = next'.presenter.allowance := by
  have uses := length_calls_perform script ctx line other.cursor.seen settings state.chance other.chance
  obtain ⟨seen, move⟩ := perform_congr script ctx line other.cursor.seen settings settings state.chance other.chance
  have course := Effect.course_congr seen move other.cursor.position
  have heard : (state.presenter.receiveAll
      (line.perform script settings ctx other.cursor.seen state.chance).calls).2 =
      (other.presenter.receiveAll (line.perform script settings ctx other.cursor.seen other.chance).calls).2 := by
    rw [Presenter.success_of_receiveAll, Presenter.success_of_receiveAll, level, uses]
  have left : (state.step script settings ctx line).1.presenter.allowance =
      (other.step script settings ctx line).1.presenter.allowance := by
    rw [allowance_step, allowance_step, same, level, uses]
  have together : (state.step script settings ctx line).1.cursor = (other.step script settings ctx line).1.cursor ∧
      (state.step script settings ctx line).2 = (other.step script settings ctx line).2 := by
    rw [step_eq, step_eq, same]
    dsimp only
    rw [heard, course, seen]
    split <;> exact ⟨rfl, rfl⟩
  rw [step] at left together
  exact ⟨_, Prod.ext rfl together.2.symm, together.1, left⟩

end

end Playback
end Narrative
