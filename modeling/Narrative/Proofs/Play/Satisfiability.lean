import Mathlib.Data.Int.Interval
import Narrative.Play.Gate
import Narrative.Proofs.Script.Arguments
import Narrative.Proofs.Script.Consistency
import Narrative.Proofs.Script.Lines

/-!
Gates and story states. A line passes in a state where what its modifiers demand holds and what they deny
does not (`passes_iff`). Consistent modifiers pass in a state made for them (`exists_passes_of_consistent`),
so the check reports a contradiction exactly on the lines that can never run (`contradiction_reported_iff`).
-/
namespace Narrative

/-- The story states that exist: the counter is a word, the flag of holding the blade is not stored, and the
    chapters visited are in order. -/
structure Context.Representable (ctx : Context) : Prop where
  number : Number.isWord ctx.number = true
  flags : ctx.flags.contains .hasBlade = false
  visited : ctx.visited.Pairwise (· < ·)

/-- Every demand of the modifiers of a line spoken by `speaker` is met, and nothing that they deny holds. -/
structure Passes (speaker : Option Persona) (ms : List Modifier) (ctx : Context) : Prop where
  flags : ∀ flag negated, .flag flag negated ∈ ms → ctx.hasFlag flag = !negated
  demanded : ∀ persona ∈ ms.flatMap (Conflict.demandedBy speaker), ctx.voices.contains persona = true
  denied : ∀ persona ∈ ms.flatMap Conflict.deniedBy, ctx.voices.contains persona = false
  checks : ∀ check negated, .context check negated ∈ ms → check.condition.holds ctx = !negated

private theorem holds_negatedIf (negated : Bool) (condition : Condition) (ctx : Context) :
    (Condition.negatedIf negated condition).holds ctx = true ↔ condition.holds ctx = !negated := by
  cases negated <;> simp [Condition.negatedIf, Condition.holds]

theorem flags_hold_iff {ms : List Modifier} {ctx : Context} :
    (∀ condition ∈ ms.flatMap Modifier.flagConditions, condition.holds ctx = true) ↔
      ∀ flag negated, .flag flag negated ∈ ms → ctx.hasFlag flag = !negated := by
  constructor
  · intro every flag negated here
    exact (holds_negatedIf negated (.flag flag) ctx).mp
      (every _ (List.mem_flatMap.mpr ⟨_, here, List.mem_singleton_self _⟩))
  · intro every condition found
    obtain ⟨modifier, here, found⟩ := List.mem_flatMap.mp found
    cases modifier with
    | flag flag negated =>
      rw [List.mem_singleton.mp found]
      exact (holds_negatedIf negated (.flag flag) ctx).mpr (every flag negated here)
    | _ => cases found

private theorem checks_hold_iff {ms : List Modifier} {ctx : Context} :
    (∀ condition ∈ ms.flatMap Modifier.contextConditions, condition.holds ctx = true) ↔
      ∀ check negated, .context check negated ∈ ms → check.condition.holds ctx = !negated := by
  constructor
  · intro every check negated here
    exact (holds_negatedIf negated check.condition ctx).mp
      (every _ (List.mem_flatMap.mpr ⟨_, here, List.mem_singleton_self _⟩))
  · intro every condition found
    obtain ⟨modifier, here, found⟩ := List.mem_flatMap.mp found
    cases modifier with
    | context check negated =>
      rw [List.mem_singleton.mp found]
      exact (holds_negatedIf negated check.condition ctx).mpr (every check negated here)
    | _ => cases found

private theorem personaConditions_eq (speaker : Option Persona) (modifier : Modifier) :
    modifier.personaConditions speaker =
      (Conflict.demandedBy speaker modifier).map .voice ++
        (Conflict.deniedBy modifier).map fun persona => .not (.voice persona) := by
  cases modifier with
  | checkVoice personas =>
    cases personas <;> simp [Modifier.personaConditions, Conflict.demandedBy, Conflict.deniedBy]
  | _ => simp [Modifier.personaConditions, Conflict.demandedBy, Conflict.deniedBy]

private theorem personas_hold_iff {speaker : Option Persona} {ms : List Modifier} {ctx : Context} :
    (∀ condition ∈ ms.flatMap (Modifier.personaConditions speaker), condition.holds ctx = true) ↔
      (∀ persona ∈ ms.flatMap (Conflict.demandedBy speaker), ctx.voices.contains persona = true) ∧
        ∀ persona ∈ ms.flatMap Conflict.deniedBy, ctx.voices.contains persona = false := by
  simp only [List.forall_mem_flatMap, personaConditions_eq, List.forall_mem_append, List.forall_mem_map,
    Condition.holds, Bool.not_eq_true', forall_and]

/-- Nothing blocks a line exactly where its modifiers pass. -/
theorem passes_iff {speaker : Option Persona} {ms : List Modifier} {ctx : Context} :
    (Gates.ofModifiers speaker ms).blockedBy ctx = none ↔ Passes speaker ms ctx := by
  rw [Gates.blockedBy_eq_none]
  simp only [Gates.conditions, Gates.ofModifiers, List.forall_mem_append, flags_hold_iff, personas_hold_iff,
    checks_hold_iff]
  constructor
  · rintro ⟨⟨flags, demanded, denied⟩, checks⟩
    exact ⟨flags, demanded, denied, checks⟩
  · intro passes
    exact ⟨⟨passes.flags, passes.demanded, passes.denied⟩, passes.checks⟩

private theorem eq_of_holds {a b : ContextCheck} {ctx : Context} (kind : a.kind = b.kind)
    (first : a.condition.holds ctx = true) (second : b.condition.holds ctx = true) : a = b := by
  cases a <;> cases b <;> cases kind <;>
    simp_all [ContextCheck.condition, Condition.holds]

/-- Modifiers that pass in some state are consistent. -/
theorem Passes.consistent {speaker : Option Persona} {ms : List Modifier} {ctx : Context}
    (passes : Passes speaker ms ctx) : Conflict.Consistent speaker ms where
  flags flag demanded denied := by
    have both := (passes.flags flag false demanded).symm.trans (passes.flags flag true denied)
    cases both
  personas persona demanded denied := by
    have both := (passes.demanded persona demanded).symm.trans (passes.denied persona denied)
    cases both
  values check demanded denied := by
    have both := (passes.checks check false demanded).symm.trans (passes.checks check true denied)
    cases both
  single a b first second kind := eq_of_holds kind (passes.checks a false first) (passes.checks b false second)

/-- There is a word other than a few. -/
theorem exists_word_notMem {taken : List Int} (few : taken.length < 0x10000000000000000) :
    ∃ n, Number.isWord n = true ∧ n ∉ taken := by
  have fewer : taken.toFinset.card < (Finset.Ico (-0x8000000000000000 : Int) 0x8000000000000000).card := by
    rw [Int.card_Ico]
    exact (List.toFinset_card_le taken).trans_lt few
  obtain ⟨n, word, fresh⟩ := Finset.exists_mem_notMem_of_card_lt_card fewer
  refine ⟨n, ?_, by simpa using fresh⟩
  obtain ⟨low, high⟩ := Finset.mem_Ico.mp word
  simp [Number.isWord, low, high]

/-- The number that a modifier compares the counter with. -/
def Modifier.number? : Modifier → Option Int
  | context (.number v) _ => some v
  | _ => none

section
variable {speaker : Option Persona} {ms : List Modifier} (consistent : Conflict.Consistent speaker ms)
include consistent

/-- A text, or none, that every check of one kind of text is right about. -/
private theorem exists_text (make : String → ContextCheck) (kind : ∀ s t, (make s).kind = (make t).kind)
    (injective : ∀ s t, make s = make t → s = t) :
    ∃ value : Option String, ∀ s negated, .context (make s) negated ∈ ms → (value == some s) = !negated := by
  by_cases some_demand : ∃ s, .context (make s) false ∈ ms
  · obtain ⟨t, demanded⟩ := some_demand
    refine ⟨some t, fun s negated here => ?_⟩
    cases negated with
    | false =>
      have same := injective s t (consistent.single _ _ here demanded (kind s t))
      simp [same]
    | true =>
      have different : t ≠ s := by
        rintro rfl
        exact consistent.values _ demanded here
      simp [different]
  · refine ⟨none, fun s negated here => ?_⟩
    cases negated with
    | false => exact absurd ⟨s, here⟩ some_demand
    | true => rfl

/-- A word that every check of the counter is right about. Only here does the number of modifiers matter:
    denials of every word leave none. -/
private theorem exists_number (few : ms.length < 0x10000000000000000) (sound : ∀ modifier ∈ ms, modifier.Sound) :
    ∃ n, Number.isWord n = true ∧ ∀ v negated, .context (.number v) negated ∈ ms → (n == v) = !negated := by
  by_cases some_demand : ∃ v, .context (.number v) false ∈ ms
  · obtain ⟨n, demanded⟩ := some_demand
    refine ⟨n, sound _ demanded, fun v negated here => ?_⟩
    cases negated with
    | false =>
      have same := consistent.single _ _ here demanded rfl
      cases same
      simp
    | true =>
      have different : n ≠ v := by
        rintro rfl
        exact consistent.values _ demanded here
      simp [different]
  · obtain ⟨n, word, fresh⟩ := exists_word_notMem ((List.length_filterMap_le Modifier.number? ms).trans_lt few)
    refine ⟨n, word, fun v negated here => ?_⟩
    cases negated with
    | false => exact absurd ⟨v, here⟩ some_demand
    | true =>
      have different : n ≠ v := by
        rintro rfl
        exact fresh (List.mem_filterMap.mpr ⟨_, here, rfl⟩)
      simp [different]

/-- Consistent modifiers pass in some state, unless they are more than there are words. -/
theorem exists_passes_of_consistent (few : ms.length < 0x10000000000000000) (sound : ∀ modifier ∈ ms, modifier.Sound) :
    ∃ ctx : Context, ctx.Representable ∧ Passes speaker ms ctx := by
  obtain ⟨source, sourced⟩ :=
    exists_text consistent .source (fun _ _ => rfl) fun _ _ => ContextCheck.source.inj
  obtain ⟨string, spelled⟩ :=
    exists_text consistent .string (fun _ _ => rfl) fun _ _ => ContextCheck.string.inj
  obtain ⟨number, word, counted⟩ := exists_number consistent few sound
  refine ⟨{
    voices := .ofPred fun persona => persona ∈ ms.flatMap (Conflict.demandedBy speaker)
    blade := if .flag .hasBlade false ∈ ms then .held else .never
    source := source
    string := string
    number := number
    flags := .ofPred fun flag => flag != .hasBlade && .flag flag false ∈ ms }, ⟨word, by simp, .nil⟩, ?_⟩
  constructor
  case demanded => simp
  case denied =>
    intro persona denied
    have free : persona ∉ ms.flatMap (Conflict.demandedBy speaker) :=
      fun demanded => consistent.personas persona demanded denied
    simpa using free
  case flags =>
    intro flag negated here
    have agrees : decide (Modifier.flag flag false ∈ ms) = !negated := by
      cases negated with
      | false => simpa using here
      | true => simpa using fun demanded => consistent.flags flag demanded here
    by_cases blade : flag = .hasBlade
    · subst blade
      rw [← agrees]
      by_cases held : Modifier.flag .hasBlade false ∈ ms <;> simp [Context.hasFlag, held]
    · simp [Context.hasFlag, blade, agrees]
  case checks =>
    intro check negated here
    cases check with
    | source s => exact sourced s negated here
    | string s => exact spelled s negated here
    | number v => exact counted v negated here

end

private theorem sound_of_modifiers {line : Line} {modifier : Modifier} (here : modifier ∈ line.modifiers) :
    modifier.Sound := by
  obtain ⟨entry, _, read⟩ := Line.exists_entry_of_modifiers here
  exact Modifier.sound_of_ofEntry read

private theorem reported_iff {name source : String} {line : Line} (member : line ∈ (Script.parse name source).lines)
    (policy : Policy) :
    (∃ finding ∈ (Script.parse name source).check policy,
      finding.line = line.index ∧ Conflict.isContradiction finding.defect = true) ↔
      ¬ Conflict.Silent ((Script.parse name source).issues line) := by
  refine (exists_finding_iff member policy (P := fun defect => Conflict.isContradiction defect = true)).trans ?_
  simp [Conflict.Silent]

/-- The check reports a contradiction on a line (a flag and its negation, a value checked and negated,
    ambiguous checks, or a voice required and excluded) exactly where no story state lets the line run. -/
theorem contradiction_reported_iff {name source : String} {line : Line}
    (member : line ∈ (Script.parse name source).lines) (few : line.modifiers.length < 0x10000000000000000)
    (policy : Policy) :
    (∃ finding ∈ (Script.parse name source).check policy,
      finding.line = line.index ∧ Conflict.isContradiction finding.defect = true) ↔
      ¬ ∃ ctx : Context, ctx.Representable ∧ line.gates.blockedBy ctx = none := by
  rw [reported_iff member, Script.issues, silent_issues_iff]
  refine not_congr ⟨fun consistent => ?_, ?_⟩
  · obtain ⟨ctx, representable, passes⟩ :=
      exists_passes_of_consistent consistent few fun _ here => sound_of_modifiers here
    exact ⟨ctx, representable, passes_iff.mpr passes⟩
  · rintro ⟨ctx, _, open_gates⟩
    exact (passes_iff.mp open_gates).consistent

/-- The blade held and not held: reported, and no state lets the line run. -/
theorem contradiction_reported_blade :
    let script := Script.parse "blade" "Hero: Wait. /// hasblade; ifnumnot(1); nothasblade"
    ∃ line ∈ script.lines, line.modifiers.length < 0x10000000000000000 ∧
      (∃ finding ∈ script.check {}, finding.line = line.index ∧ Conflict.isContradiction finding.defect = true) ∧
      ¬ ∃ ctx : Context, ctx.Representable ∧ line.gates.blockedBy ctx = none := by
  intro script
  have some_line : script.lines ≠ [] := by decide +kernel
  obtain ⟨line, member⟩ := List.exists_mem_of_ne_nil _ some_line
  have few : ∀ other ∈ script.lines, other.modifiers.length < 0x10000000000000000 := by decide +kernel
  have reported : ∀ other ∈ script.lines, ∃ finding ∈ script.check {},
      finding.line = other.index ∧ Conflict.isContradiction finding.defect = true := by
    decide +kernel
  exact ⟨line, member, few line member, reported line member,
    (contradiction_reported_iff member (few line member) {}).mp (reported line member)⟩

end Narrative
