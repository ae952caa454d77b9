import Mathlib.Data.List.Nodup
import Narrative.Proofs.Script.Headings

/-!
When the modifiers of a line agree with each other. The check finds one of the four contradictions
among them exactly where they do not (`Conflict.silent_issues_iff`), and there is none in the rest of
what it finds on the line (`silent_issues_iff`).
-/
namespace Narrative
namespace Conflict

/-- Modifiers of a line spoken by `speaker` demand nothing twice that can be had once, and deny nothing that
    they demand. Denied values may be as many as the author likes. -/
structure Consistent (speaker : Option Persona) (ms : List Modifier) : Prop where
  flags : ∀ flag, .flag flag false ∈ ms → .flag flag true ∉ ms
  personas : ∀ persona ∈ ms.flatMap (demandedBy speaker), persona ∉ ms.flatMap deniedBy
  values : ∀ check, .context check false ∈ ms → .context check true ∉ ms
  single : ∀ a b : ContextCheck, .context a false ∈ ms → .context b false ∈ ms → a.kind = b.kind → a = b

theorem mem_checksOf {kind : ContextKind} {negated : Bool} {ms : List Modifier} {check : ContextCheck} :
    check ∈ checksOf kind negated ms ↔ check.kind = kind ∧ .context check negated ∈ ms := by
  rw [checksOf, List.mem_filterMap]
  constructor
  · rintro ⟨modifier, here, found⟩
    cases modifier with
    | context other sign =>
      simp only [Option.ite_none_right_eq_some, Bool.and_eq_true, beq_iff_eq, Option.some.injEq] at found
      obtain ⟨⟨rfl, rfl⟩, rfl⟩ := found
      exact ⟨rfl, here⟩
    | _ => cases found
  · rintro ⟨rfl, here⟩
    exact ⟨_, here, by simp⟩

private theorem nodup_checksOf (kind : ContextKind) (negated : Bool) {ms : List Modifier} (distinct : ms.Nodup) :
    (checksOf kind negated ms).Nodup := by
  refine List.Nodup.filterMap ?_ distinct
  rintro (_ | _ | _ | ⟨a, _⟩ | _) (_ | _ | _ | ⟨b, _⟩ | _) check first second <;> simp_all

/-- Whether no issue of a list is a contradiction. -/
def Silent (found : List Issue) : Prop := ∀ issue ∈ found, isContradiction issue.defect = false

theorem silent_append {first second : List Issue} : Silent (first ++ second) ↔ Silent first ∧ Silent second := by
  simp only [Silent, List.forall_mem_append]

private theorem silent_map {α : Type} {xs : List α} {issue : α → Issue}
    (harmless : ∀ a, isContradiction (issue a).defect = false) : Silent (xs.map issue) := by
  simp only [Silent, List.forall_mem_map]
  exact fun a _ => harmless a

private theorem silent_map_iff {α : Type} {xs : List α} {issue : α → Issue}
    (harmful : ∀ a, isContradiction (issue a).defect = true) : Silent (xs.map issue) ↔ xs = [] := by
  cases xs with
  | nil => simp [Silent]
  | cons a rest => simp [Silent, harmful]

private theorem silent_flagIssues {keyword : Option Keyword} {ms : List Modifier} :
    Silent (flagIssues keyword ms) ↔ ∀ flag, .flag flag false ∈ ms → .flag flag true ∉ ms := by
  unfold flagIssues
  refine silent_append.trans ((and_iff_left ?_).trans ?_)
  · cases keyword with
    | none => simp [Silent]
    | some keyword => exact silent_map fun _ => rfl
  · rw [silent_map_iff fun _ => rfl, contradictedFlags, List.filter_eq_nil_iff]
    simp only [Enumerated.mem_all, forall_const, Bool.and_eq_true, List.contains_iff_mem, not_and]

private theorem length_le_one_iff {α : Type} {xs : List α} (distinct : xs.Nodup) :
    xs.length ≤ 1 ↔ ∀ a ∈ xs, ∀ b ∈ xs, a = b := by
  match xs with
  | [] => simp
  | [x] => simp
  | x :: y :: rest =>
    have different : x ≠ y := by
      rintro rfl
      simp at distinct
    simp only [List.length_cons, List.mem_cons]
    refine iff_of_false (by omega) fun same => different (same x (by simp) y (by simp))

private theorem silent_kindIssues {ms : List Modifier} (distinct : ms.Nodup) (kind : ContextKind) :
    Silent (kindIssues ms kind) ↔
      (∀ check : ContextCheck, check.kind = kind → .context check false ∈ ms → .context check true ∉ ms) ∧
        ∀ a b : ContextCheck, a.kind = kind → b.kind = kind →
          .context a false ∈ ms → .context b false ∈ ms → a = b := by
  rw [kindIssues, silent_append]
  refine and_congr ?_ ?_
  · rw [silent_map_iff fun _ => rfl, List.filter_eq_nil_iff]
    simp only [List.contains_iff_mem, mem_checksOf, not_and, and_imp]
    exact forall_congr' fun check => ⟨fun h kind here => h kind here kind, fun h kind here _ => h kind here⟩
  · have few : Silent (if (checksOf kind false ms).length > 1 then
        [⟨.ambiguousContextChecks, (checksOf kind false ms).map ContextCheck.text⟩] else []) ↔
        (checksOf kind false ms).length ≤ 1 := by
      split <;> simp [Silent, isContradiction] <;> omega
    rw [few, length_le_one_iff (nodup_checksOf kind false distinct)]
    simp only [mem_checksOf, and_imp]
    exact ⟨fun h a b ka kb ha hb => h a ka ha b kb hb, fun h a ka ha b kb hb => h a b ka kb ha hb⟩

private theorem silent_contextIssues {keyword : Option Keyword} {ms : List Modifier} (distinct : ms.Nodup) :
    Silent (contextIssues keyword ms) ↔
      (∀ check, .context check false ∈ ms → .context check true ∉ ms) ∧
        ∀ a b : ContextCheck, .context a false ∈ ms → .context b false ∈ ms → a.kind = b.kind → a = b := by
  have kinds : Silent (ContextKind.all.flatMap (kindIssues ms)) ↔ ∀ kind, Silent (kindIssues ms kind) := by
    simp only [Silent, List.mem_flatMap]
    constructor
    · exact fun h kind issue found => h issue ⟨kind, by cases kind <;> decide, found⟩
    · rintro h issue ⟨kind, _, found⟩
      exact h kind issue found
  unfold contextIssues
  refine silent_append.trans ((and_iff_left ?_).trans ?_)
  · cases keyword with
    | none => simp [Silent]
    | some keyword => exact silent_map fun _ => rfl
  · rw [kinds]
    simp only [silent_kindIssues distinct, forall_and]
    exact and_congr ⟨fun h check => h check.kind check rfl, fun h _ check _ => h check⟩
      ⟨fun h a b ha hb same => h b.kind a b same rfl ha hb,
        fun h kind a b ka kb ha hb => h a b ha hb (ka.trans kb.symm)⟩

private theorem silent_voiceIssues {speaker : Option Persona} {ms : List Modifier} :
    Silent (voiceIssues speaker ms) ↔ ∀ persona ∈ ms.flatMap (demandedBy speaker), persona ∉ ms.flatMap deniedBy := by
  have shared : Silent (if (contradictedPersonas speaker ms).isEmpty then [] else
      [⟨.voiceRequiredAndExcluded, (contradictedPersonas speaker ms).map Persona.name⟩]) ↔
      contradictedPersonas speaker ms = [] := by
    split <;> simp_all [Silent, isContradiction]
  unfold voiceIssues
  refine silent_append.trans ((and_iff_left ?_).trans ?_)
  · cases speaker with
    | none => simp [Silent]
    | some persona => simp only; split <;> simp [Silent, isContradiction]
  · rw [shared, contradictedPersonas, List.filter_eq_nil_iff]
    simp only [Enumerated.mem_all, forall_const, Bool.and_eq_true, List.contains_iff_mem, not_and]

/-- The check finds no contradiction among modifiers exactly where they are consistent. -/
theorem silent_issues_iff {keyword : Option Keyword} {speaker : Option Persona} {ms : List Modifier} :
    Silent (issues keyword speaker (distinctFrom [] ms)) ↔ Consistent speaker ms := by
  have same : ∀ modifier, modifier ∈ distinctFrom [] ms ↔ modifier ∈ ms := by simp [mem_distinctFrom]
  have gathered : ∀ (f : Modifier → List Persona) persona,
      persona ∈ (distinctFrom [] ms).flatMap f ↔ persona ∈ ms.flatMap f := by simp [same]
  rw [issues, silent_append, silent_append, silent_flagIssues,
    silent_contextIssues (nodup_distinctFrom [] ms), silent_voiceIssues]
  simp only [same, gathered]
  constructor
  · rintro ⟨⟨flags, values, single⟩, personas⟩
    exact ⟨flags, personas, values, single⟩
  · intro consistent
    exact ⟨⟨consistent.flags, consistent.values, consistent.single⟩, consistent.personas⟩

end Conflict

private theorem heading_of_isContradiction {defect : Defect} (contradiction : Conflict.isContradiction defect = true) :
    defect.heading = .conflict := by
  cases defect <;> first | rfl | cases contradiction

private theorem silent_of_heading {found : List Issue} (other : ∀ issue ∈ found, issue.defect.heading ≠ .conflict) :
    Conflict.Silent found :=
  fun issue member => eq_false_of_ne_true fun contradiction =>
    other issue member (heading_of_isContradiction contradiction)

private theorem silent_entryIssues (entries : List Entry) : Conflict.Silent (Line.entryIssues entries) := by
  refine silent_of_heading fun issue found => ?_
  obtain ⟨entry, _, read⟩ := List.mem_filterMap.mp found
  split at read
  · cases read
  · rename_i fault _
    rw [← Option.some.inj read]
    cases fault <;> nofun

private theorem silent_modifierIssues_iff {line : Line} :
    Conflict.Silent line.modifierIssues ↔ Conflict.Consistent line.persona? line.modifiers := by
  unfold Line.modifierIssues
  refine Conflict.silent_append.trans ((and_iff_right (silent_of_heading ?_)).trans Conflict.silent_issues_iff)
  simp only [List.forall_mem_append, List.forall_mem_map]
  refine ⟨⟨fun _ _ => by decide, ?_⟩, ?_⟩ <;> split <;> simp <;> decide

private theorem consistent_nil (speaker : Option Persona) : Conflict.Consistent speaker [] := by
  constructor <;> simp

private theorem silent_blockIssues_iff {line : Line} :
    Conflict.Silent line.blockIssues ↔ Conflict.Consistent line.persona? line.modifiers := by
  have harmless (nothing : line.modifiers = []) (silent : Conflict.Silent line.blockIssues) :
      Conflict.Silent line.blockIssues ↔ Conflict.Consistent line.persona? line.modifiers :=
    iff_of_true silent (nothing ▸ consistent_nil _)
  cases block : line.block with
  | absent =>
    exact harmless (by simp [Line.modifiers, block, Block.toList])
      (by simp [Line.blockIssues, block, Conflict.Silent])
  | empty =>
    exact harmless (by simp [Line.modifiers, block, Block.toList])
      (by simp [Line.blockIssues, block, Conflict.Silent, Conflict.isContradiction])
  | dividers count =>
    exact harmless (by simp [Line.modifiers, block, Block.toList])
      (by simp [Line.blockIssues, block, Conflict.Silent, Conflict.isContradiction])
  | entries list =>
    cases ignored : line.content.ignoresModifiers with
    | true =>
      exact harmless (by simp [Line.modifiers, ignored])
        (by simp [Line.blockIssues, block, ignored, Conflict.Silent, Conflict.isContradiction])
    | false =>
      simp only [Line.blockIssues, block, ignored, Bool.false_eq_true, ite_false]
      rw [Conflict.silent_append, and_iff_right (silent_entryIssues list), silent_modifierIssues_iff]

/-- The check finds no contradiction on a line exactly where the modifiers of the line are consistent. -/
theorem silent_issues_iff {labels : LabelTable} {size : Nat} {used : List String} {line : Line} :
    Conflict.Silent (line.issues labels size used) ↔ Conflict.Consistent line.persona? line.modifiers := by
  have speaker : Conflict.Silent line.speakerIssues := by
    refine silent_of_heading fun issue found => ?_
    rw [defect_of_speakerIssues found]
    decide
  have directive : Conflict.Silent (line.directiveIssues labels size) := by
    refine silent_of_heading fun issue found => ?_
    obtain ⟨keyword, _, _, family⟩ := isErrorOf_of_directiveIssues found
    rw [family]
    cases keyword <;> decide
  have label : Conflict.Silent (line.labelIssues labels used) := by
    refine silent_of_heading fun issue found => ?_
    rw [heading_of_labelIssues found]
    decide
  unfold Line.issues
  rw [Conflict.silent_append, Conflict.silent_append, Conflict.silent_append, and_iff_left label,
    and_iff_right speaker, and_iff_right directive, silent_blockIssues_iff]

end Narrative
