import Narrative.Proofs.Play.Satisfiability
import Narrative.Proofs.Play.Targets

/-!
Flags after a history of writes. A flag holds where the last write to it said so, whatever was written to the others
(`Context.hasFlag_afterWrites`). The flag of holding the blade is not stored, and a write to it moves the blade: one
that was held is a former one for good, until it is held again (`Context.blade_afterWrites`). So the history alone tells
where a blade switch goes and which gates on flags are open (`routed_by_writes`).
-/
namespace Narrative

/-- The value last written to a flag. -/
def Flag.lastWritten? (flag : Flag) (writes : List (Flag × Bool)) : Option Bool := writes.reverse.lookup flag

/-- The context after writes to flags, in order. -/
def Context.afterWrites (ctx : Context) (writes : List (Flag × Bool)) : Context :=
  writes.foldl (fun ctx write => ctx.setFlag write.1 write.2) ctx

/-- The blade after writes, if it was never held before them: held if the last write to its flag says so, and else a
    former one if some write did. -/
def Blade.ofWrites (writes : List (Flag × Bool)) : Blade :=
  if Flag.hasBlade.lastWritten? writes = some true then .held
  else if (.hasBlade, true) ∈ writes then .former
  else .never

namespace Flag

theorem lastWritten?_append_single (flag : Flag) (writes : List (Flag × Bool)) (write : Flag × Bool) :
    flag.lastWritten? (writes ++ [write]) = if flag = write.1 then some write.2 else flag.lastWritten? writes := by
  obtain ⟨written, value⟩ := write
  rw [lastWritten?, List.reverse_append, List.reverse_singleton, List.singleton_append, List.lookup_cons]
  by_cases same : flag = written
  · simp [same]
  · rw [beq_false_of_ne same, if_neg same, lastWritten?]

/-- What was last written to a flag was written to it. -/
theorem mem_of_lastWritten? {flag : Flag} {writes : List (Flag × Bool)} {value : Bool}
    (last : flag.lastWritten? writes = some value) : (flag, value) ∈ writes := by
  obtain ⟨before, after, history, _⟩ := List.lookup_eq_some_iff.mp last
  rw [← List.mem_reverse, history]
  simp

/-- A flag to which something was written has a last write. -/
theorem exists_lastWritten? {flag : Flag} {writes : List (Flag × Bool)} {value : Bool}
    (written : (flag, value) ∈ writes) : ∃ last, flag.lastWritten? writes = some last := by
  rw [← Option.ne_none_iff_exists', lastWritten?, ne_eq, List.lookup_eq_none_iff]
  intro none
  simpa using none _ (List.mem_reverse.mpr written)

end Flag

namespace Context

theorem blade_setFlag (ctx : Context) (flag : Flag) (value : Bool) :
    (ctx.setFlag flag value).blade =
      if flag = .hasBlade then
        if value then .held else if ctx.blade = .held then .former else ctx.blade
      else ctx.blade := by
  by_cases blade : flag = .hasBlade
  · cases value with
    | true => simp [setFlag, blade]
    | false => by_cases held : ctx.blade = .held <;> simp [setFlag, blade, held]
  · simp [setFlag, blade]

theorem afterWrites_append_single (ctx : Context) (writes : List (Flag × Bool)) (write : Flag × Bool) :
    ctx.afterWrites (writes ++ [write]) = (ctx.afterWrites writes).setFlag write.1 write.2 := by
  rw [afterWrites, List.foldl_append]
  rfl

/-- A flag is as it was last written, or as it was where nothing was written to it. -/
theorem hasFlag_afterWrites (ctx : Context) (writes : List (Flag × Bool)) (flag : Flag) :
    (ctx.afterWrites writes).hasFlag flag = (flag.lastWritten? writes).getD (ctx.hasFlag flag) := by
  induction writes using List.reverseRecOn with
  | nil => rfl
  | append_singleton writes write ih =>
    rw [afterWrites_append_single, hasFlag_setFlag, ih, Flag.lastWritten?_append_single]
    split <;> rfl

theorem blade_afterWrites {ctx : Context} (fresh : ctx.blade = .never) (writes : List (Flag × Bool)) :
    (ctx.afterWrites writes).blade = .ofWrites writes := by
  induction writes using List.reverseRecOn with
  | nil => exact fresh
  | append_singleton writes write ih =>
    obtain ⟨flag, value⟩ := write
    rw [afterWrites_append_single, blade_setFlag, ih, Blade.ofWrites, Blade.ofWrites, Flag.lastWritten?_append_single]
    by_cases blade : flag = .hasBlade
    · subst blade
      cases value with
      | true => simp
      | false =>
        -- A blade that was held last, or some time before, is a former one now.
        by_cases last : Flag.hasBlade.lastWritten? writes = some true
        · simp [last, Flag.mem_of_lastWritten? last]
        · by_cases once : (Flag.hasBlade, true) ∈ writes <;> simp [last, once]
    · have other : Flag.hasBlade ≠ flag := Ne.symm blade
      simp [blade, other]

end Context

section
variable (writes : List (Flag × Bool))

theorem Blade.ofWrites_eq_held_iff : Blade.ofWrites writes = .held ↔ Flag.hasBlade.lastWritten? writes = some true := by
  rw [ofWrites]
  split
  · simpa
  · split <;> simpa

theorem Blade.ofWrites_eq_former_iff : Blade.ofWrites writes = .former ↔
    (.hasBlade, true) ∈ writes ∧ Flag.hasBlade.lastWritten? writes = some false := by
  rw [ofWrites]
  split
  · rename_i last
    simp [last]
  · rename_i last
    split
    · rename_i once
      obtain ⟨value, written⟩ := Flag.exists_lastWritten? once
      cases value with
      | true => exact absurd written last
      | false => simp [once, written]
    · rename_i never
      simp [never]

end

/-- Only a condition on flags that does not hold blocks a line by its flags. -/
theorem Gates.blockedBy_ne_flag_iff {gates : Gates} {ctx : Context} :
    gates.blockedBy ctx ≠ some .flag ↔ ∀ condition ∈ gates.flags, condition.holds ctx = true := by
  rw [← List.all_eq_true, blockedBy]
  cases gates.flags.all (·.holds ctx) <;> cases gates.personas.all (·.holds ctx) <;>
    cases gates.context.all (·.holds ctx) <;> simp

/-- After writes to flags from the opening of a story, in any order: a blade switch goes to its first label exactly if
    holding the blade was last written as true, to its second one exactly if it was written as true at some time and
    as false last, and to its third one otherwise. A gate on a flag is open exactly if the flag was last written as
    true, and a gate on its absence exactly if it was not. -/
theorem routed_by_writes (writes : List (Flag × Bool)) :
    let ctx := Context.opening.afterWrites writes
    let held := Flag.hasBlade.lastWritten? writes = some true
    let former := (.hasBlade, true) ∈ writes ∧ Flag.hasBlade.lastWritten? writes = some false
    ((ctx.blade = .held ↔ held) ∧ (ctx.blade = .former ↔ former) ∧ (ctx.blade = .never ↔ ¬ held ∧ ¬ former)) ∧
    (∀ (script : Script) (line : Line) (first second third : String),
      line.directive? = some (.bladeSwitch first second third) → line.runsIn ctx = true →
        ∀ place, line.JumpsTo script ctx place ↔ held ∧ script.labels.line? first = some place ∨
          former ∧ script.labels.line? second = some place ∨
          ¬ held ∧ ¬ former ∧ script.labels.line? third = some place) ∧
    (∀ flag, (Condition.flag flag).holds ctx = true ↔ flag.lastWritten? writes = some true) ∧
    ∀ line : Line, line.gates.blockedBy ctx ≠ some .flag ↔ ∀ flag negated, .flag flag negated ∈ line.modifiers →
      (flag.lastWritten? writes = some true ↔ negated = false) := by
  intro ctx held former
  have holds : ∀ flag, ctx.hasFlag flag = true ↔ flag.lastWritten? writes = some true := by
    intro flag
    have none : Context.opening.hasFlag flag = false := by cases flag <;> rfl
    rw [Context.hasFlag_afterWrites, none]
    cases flag.lastWritten? writes <;> simp
  have blade : ctx.blade = .ofWrites writes := Context.blade_afterWrites rfl writes
  have first_iff : ctx.blade = .held ↔ held := by rw [blade, Blade.ofWrites_eq_held_iff]
  have second_iff : ctx.blade = .former ↔ former := by rw [blade, Blade.ofWrites_eq_former_iff]
  have third_iff : ctx.blade = .never ↔ ¬ held ∧ ¬ former := by
    rw [← first_iff, ← second_iff]
    cases ctx.blade <;> simp
  refine ⟨⟨first_iff, second_iff, third_iff⟩, ?_, holds, ?_⟩
  · intro script line first second third written runs place
    rw [jumpsTo_iff runs written rfl, Directive.route, goTo_eq_jump_iff, ← first_iff, ← second_iff]
    cases ctx.blade <;> simp [bladeLabel]
  · intro line
    rw [Gates.blockedBy_ne_flag_iff, Line.gates, Gates.ofModifiers, flags_hold_iff]
    refine forall₃_congr fun flag negated _ => ?_
    rw [← holds flag]
    cases negated <;> simp

theorem routed_by_writes_of_lost_blade :
    let script := Script.parse "blade" "bladeswitch armed lost bare /// harsh\nlabel armed\nlabel lost\nlabel bare"
    let writes : List (Flag × Bool) :=
      [(.hasBlade, false), (.harsh, true), (.hasBlade, true), (.threwBlade, true), (.hasBlade, false)]
    let ctx := Context.opening.afterWrites writes
    ∃ line, script.line? 0 = some line ∧ line.directive? = some (.bladeSwitch "armed" "lost" "bare") ∧
      line.runsIn ctx = true ∧ line.JumpsTo script ctx 2 ∧ ¬ line.JumpsTo script ctx 1 := by
  intro script writes ctx
  have facts : (script.line? 0).map (fun line => (line.directive?, line.runsIn ctx)) =
        some (some (.bladeSwitch "armed" "lost" "bare"), true) ∧
      ["armed", "lost", "bare"].map script.labels.line? = [some 1, some 2, some 3] ∧
      Flag.hasBlade.lastWritten? writes = some false := by
    decide +kernel
  obtain ⟨found, bound, last⟩ := facts
  obtain ⟨line, here, told⟩ := Option.map_eq_some_iff.mp found
  obtain ⟨written, runs⟩ := Prod.mk.inj told
  have goes := (routed_by_writes writes).2.1 script line "armed" "lost" "bare" written runs
  simp only [List.map_cons, List.map_nil, List.cons.injEq, and_true] at bound
  obtain ⟨armed, lost, bare⟩ := bound
  refine ⟨line, here, written, runs, (goes 2).mpr (.inr (.inl ⟨⟨by decide, last⟩, lost⟩)), ?_⟩
  intro jumps
  rcases (goes 1).mp jumps with ⟨held, _⟩ | ⟨_, elsewhere⟩ | ⟨_, _, elsewhere⟩
  · rw [last] at held
    cases held
  · rw [lost] at elsewhere
    cases elsewhere
  · rw [bare] at elsewhere
    cases elsewhere

end Narrative
