import Mathlib.Data.List.Forall2
import Mathlib.Data.Multiset.MapFold
import Narrative.Play.Gate
import Narrative.Proofs.Script.Lines
import Narrative.Script.Check

/-!
Modifiers in another order. Where the entries of blocks change places (`Script.Reordered`), the modifiers of each line
do, and what is asked of the story state stays the same (`Line.Reordered.blockedBy`). The check then finds
the same on each line, but for the order of its findings and of their details (`Script.Reordered.issues_of_pair`,
`Script.Reordered.check`).
-/
namespace Narrative

/-- The entry without the place where it stands. -/
def Entry.unplaced (entry : Entry) : Entry := { entry with span := ⟨0, 0⟩ }

/-- Two blocks with the same entries in any order. -/
def Block.Reordered : Block → Block → Prop
  | .entries list, .entries list' => (list.map Entry.unplaced).Perm (list'.map Entry.unplaced)
  | block, other => block = other

/-- Two lines that differ in the order of their entries, and in where they and their entries stand. -/
structure Line.Reordered (line other : Line) : Prop where
  index : other.index = line.index
  content : other.content = line.content
  block : line.block.Reordered other.block

/-- Two scripts that differ in the order of the entries on their lines. -/
def Script.Reordered (script other : Script) : Prop := List.Forall₂ Line.Reordered script.lines other.lines

instance : ∀ block other : Block, Decidable (block.Reordered other)
  | .entries list, .entries list' =>
    inferInstanceAs (Decidable ((list.map Entry.unplaced).Perm (list'.map Entry.unplaced)))
  | .entries list, .absent => inferInstanceAs (Decidable (Block.entries list = .absent))
  | .entries list, .empty => inferInstanceAs (Decidable (Block.entries list = .empty))
  | .entries list, .dividers n => inferInstanceAs (Decidable (Block.entries list = .dividers n))
  | .absent, other => inferInstanceAs (Decidable (Block.absent = other))
  | .empty, other => inferInstanceAs (Decidable (Block.empty = other))
  | .dividers n, other => inferInstanceAs (Decidable (Block.dividers n = other))

instance (line other : Line) : Decidable (line.Reordered other) :=
  decidable_of_iff (other.index = line.index ∧ other.content = line.content ∧ line.block.Reordered other.block)
    ⟨fun same => ⟨same.1, same.2.1, same.2.2⟩, fun pair => ⟨pair.index, pair.content, pair.block⟩⟩

instance (script other : Script) : Decidable (script.Reordered other) :=
  inferInstanceAs (Decidable (List.Forall₂ Line.Reordered script.lines other.lines))

/-- Two issues with the same defect and the same details in any order. -/
def Issue.Alike (issue other : Issue) : Prop := issue.defect = other.defect ∧ issue.details.Perm other.details

/-- Two findings on the same line that are alike, in scripts where the line may have other bytes. -/
structure Finding.Alike (finding other : Finding) : Prop where
  line : finding.line = other.line
  defect : finding.defect = other.defect
  details : finding.details.Perm other.details
  severity : finding.severity = other.severity

/-- The same issues in any order. -/
def Issue.AlikeAll (issues others : List Issue) : Prop :=
  Multiset.Rel Issue.Alike (issues : Multiset Issue) (others : Multiset Issue)

section
variable {α : Type} [DecidableEq α] {xs ys : List α}

theorem perm_distinctFrom (same : xs.Perm ys) : (distinctFrom [] xs).Perm (distinctFrom [] ys) := by
  rw [List.perm_ext_iff_of_nodup (nodup_distinctFrom [] xs) (nodup_distinctFrom [] ys)]
  intro a
  rw [mem_distinctFrom, mem_distinctFrom, same.mem_iff]

theorem perm_distinctFrom_append_repeatedFrom (seen xs : List α) :
    (distinctFrom seen xs ++ repeatedFrom seen xs).Perm xs := by
  induction xs generalizing seen with
  | nil => rfl
  | cons a rest ih =>
    by_cases old : a ∈ seen
    · rw [distinctFrom, repeatedFrom, if_pos old, if_pos old]
      exact List.perm_middle.trans ((ih seen).cons a)
    · rw [distinctFrom, repeatedFrom, if_neg old, if_neg old, List.cons_append]
      exact (ih (a :: seen)).cons a

/-- What is left when each element is taken once is the same in any order. -/
theorem perm_repeatedFrom (same : xs.Perm ys) : (repeatedFrom [] xs).Perm (repeatedFrom [] ys) := by
  have whole := perm_distinctFrom_append_repeatedFrom [] xs
  have whole' := (perm_distinctFrom_append_repeatedFrom [] ys).symm
  have first := (perm_distinctFrom same).symm.append_right (repeatedFrom [] ys)
  exact (List.perm_append_left_iff (distinctFrom [] xs)).mp (whole.trans (same.trans (whole'.trans first)))

end

theorem rel_flatMap {α β : Type} {R : β → β → Prop} {f g : α → List β} {xs ys : List α}
    (each : List.Forall₂ (fun a b => Multiset.Rel R (f a : Multiset β) (g b : Multiset β)) xs ys) :
    Multiset.Rel R (xs.flatMap f : Multiset β) (ys.flatMap g : Multiset β) := by
  induction each with
  | nil => exact .zero
  | cons pair rest ih =>
    rw [List.flatMap_cons, List.flatMap_cons, ← Multiset.coe_add, ← Multiset.coe_add]
    exact Multiset.Rel.add pair ih

namespace Issue.AlikeAll
variable {issues issues' others others' : List Issue} {defect : Defect} {details details' : List String}

theorem of_perm (same : issues.Perm others) : AlikeAll issues others := by
  rw [AlikeAll, Multiset.coe_eq_coe.mpr same]
  exact Multiset.rel_refl_of_refl_on fun issue _ => ⟨rfl, .refl issue.details⟩

theorem refl (issues : List Issue) : AlikeAll issues issues := of_perm (.refl issues)

theorem append (first : AlikeAll issues others) (second : AlikeAll issues' others') :
    AlikeAll (issues ++ issues') (others ++ others') := by
  rw [AlikeAll, ← Multiset.coe_add, ← Multiset.coe_add]
  exact Multiset.Rel.add first second

theorem single (same : details.Perm details') : AlikeAll [⟨defect, details⟩] [⟨defect, details'⟩] :=
  .cons ⟨rfl, same⟩ .zero

theorem flatMap {α : Type} {find find' : α → List Issue} (xs : List α) (alike : ∀ a, AlikeAll (find a) (find' a)) :
    AlikeAll (xs.flatMap find) (xs.flatMap find') :=
  rel_flatMap (List.forall₂_same.mpr fun a _ => alike a)

/-- Alike issues make alike findings. -/
theorem findings {line other : Line} (alike : AlikeAll issues others) (index : other.index = line.index)
    (policy : Policy) :
    Multiset.Rel Finding.Alike (issues.map (·.finding line policy) : Multiset Finding)
      (others.map (·.finding other policy) : Multiset Finding) := by
  rw [← Multiset.map_coe, ← Multiset.map_coe, Multiset.rel_map]
  refine Multiset.Rel.mono alike ?_
  rintro issue _ issue' _ ⟨defect, details⟩
  exact ⟨index.symm, defect, details, by rw [Issue.finding, Issue.finding, defect]⟩

end Issue.AlikeAll

namespace Conflict
variable {ms ms' : List Modifier}

theorem flagIssues_alike (same : ms.Perm ms') (keyword : Option Keyword) :
    Issue.AlikeAll (flagIssues keyword ms) (flagIssues keyword ms') := by
  have flags : contradictedFlags ms = contradictedFlags ms' := by
    simp only [contradictedFlags, same.contains_eq]
  simp only [flagIssues, flags]
  refine (Issue.AlikeAll.refl _).append ?_
  cases keyword with
  | none => exact .refl []
  | some k => exact .of_perm ((same.filter _).map _)

theorem perm_checksOf (same : ms.Perm ms') (kind : ContextKind) (negated : Bool) :
    (checksOf kind negated ms).Perm (checksOf kind negated ms') := same.filterMap _

theorem kindIssues_alike (same : ms.Perm ms') (kind : ContextKind) :
    Issue.AlikeAll (kindIssues ms kind) (kindIssues ms' kind) := by
  have demanded := perm_checksOf same kind false
  have denied := perm_checksOf same kind true
  have shared : (checksOf kind true ms).contains = (checksOf kind true ms').contains :=
    funext fun _ => denied.contains_eq
  simp only [kindIssues, shared, demanded.length_eq]
  refine (Issue.AlikeAll.of_perm ((demanded.filter _).map _)).append ?_
  split
  · exact .single (demanded.map _)
  · exact .refl []

theorem contextIssues_alike (same : ms.Perm ms') (keyword : Option Keyword) :
    Issue.AlikeAll (contextIssues keyword ms) (contextIssues keyword ms') := by
  unfold contextIssues
  refine (Issue.AlikeAll.flatMap _ (kindIssues_alike same)).append ?_
  cases keyword with
  | none => exact .refl []
  | some k => exact .of_perm ((same.filter _).map _)

theorem voiceIssues_perm (same : ms.Perm ms') (speaker : Option Persona) :
    voiceIssues speaker ms = voiceIssues speaker ms' := by
  have denied : ∀ p, (ms.flatMap deniedBy).contains p = (ms'.flatMap deniedBy).contains p :=
    fun _ => (same.flatMap_right deniedBy).contains_eq
  have demanded : ∀ p, (ms.flatMap (demandedBy speaker)).contains p = (ms'.flatMap (demandedBy speaker)).contains p :=
    fun _ => (same.flatMap_right (demandedBy speaker)).contains_eq
  have shared : contradictedPersonas speaker ms = contradictedPersonas speaker ms' := by
    simp only [contradictedPersonas, demanded, denied]
  unfold voiceIssues
  rw [shared]
  cases speaker with
  | none => rfl
  | some p => simp only [denied]

theorem issues_alike (same : ms.Perm ms') (keyword : Option Keyword) (speaker : Option Persona) :
    Issue.AlikeAll (issues keyword speaker ms) (issues keyword speaker ms') := by
  rw [issues, issues, voiceIssues_perm same]
  exact ((flagIssues_alike same keyword).append (contextIssues_alike same keyword)).append (.refl _)

end Conflict

/-- Where an entry stands does not matter to what it means. -/
theorem Modifier.ofEntry_unplaced (entry : Entry) : ofEntry entry.unplaced = ofEntry entry := rfl

theorem Block.Reordered.toList {block other : Block} (same : block.Reordered other) :
    (block.toList.map Entry.unplaced).Perm (other.toList.map Entry.unplaced) := by
  unfold Block.Reordered at same
  split at same
  · exact same
  · rw [same]

/-- What is read from each entry is the same in another order, if it does not depend on where the entry stands. -/
theorem perm_filterMap_unplaced {α : Type} {list list' : List Entry} {read : Entry → Option α}
    (same : (list.map Entry.unplaced).Perm (list'.map Entry.unplaced))
    (placeless : ∀ entry, read entry.unplaced = read entry) : (list.filterMap read).Perm (list'.filterMap read) := by
  have moved : ∀ list : List Entry, (list.map Entry.unplaced).filterMap read = list.filterMap read := by
    intro list
    rw [List.filterMap_map]
    exact List.filterMap_congr fun entry _ => placeless entry
  rw [← moved list, ← moved list']
  exact same.filterMap read

namespace Line.Reordered
variable {line other : Line}

theorem perm_modifiers (pair : line.Reordered other) : line.modifiers.Perm other.modifiers := by
  unfold Line.modifiers
  rw [pair.content]
  split
  · exact .refl []
  · refine perm_filterMap_unplaced pair.block.toList fun entry => ?_
    rw [Modifier.ofEntry_unplaced]

theorem persona? (pair : line.Reordered other) : other.persona? = line.persona? := by
  simp only [Line.persona?, Line.speaker?, pair.content]

theorem directive? (pair : line.Reordered other) : other.directive? = line.directive? := by
  rw [Line.directive?, Line.directive?, pair.content]

theorem definition? (pair : line.Reordered other) : other.definition? = line.definition? := by
  rw [Line.definition?, Line.definition?, pair.directive?]

theorem hasInterrupt (pair : line.Reordered other) : other.hasInterrupt = line.hasInterrupt :=
  pair.perm_modifiers.contains_eq.symm

theorem hasFlagGate (pair : line.Reordered other) : other.hasFlagGate = line.hasFlagGate :=
  pair.perm_modifiers.any_eq.symm

/-- The gates of both lines ask for the same, group by group. -/
theorem blockedBy (pair : line.Reordered other) (ctx : Context) :
    line.gates.blockedBy ctx = other.gates.blockedBy ctx := by
  have same := pair.perm_modifiers
  have flags : line.gates.flags.Perm other.gates.flags := same.flatMap_right _
  have context : line.gates.context.Perm other.gates.context := same.flatMap_right _
  have personas : line.gates.personas.Perm other.gates.personas := by
    simp only [Line.gates, Gates.ofModifiers, pair.persona?]
    exact same.flatMap_right _
  unfold Gates.blockedBy
  rw [flags.all_eq, personas.all_eq, context.all_eq]

theorem runsIn (pair : line.Reordered other) (ctx : Context) : other.runsIn ctx = line.runsIn ctx := by
  rw [Line.runsIn, Line.runsIn, pair.blockedBy]

theorem modifierIssues (pair : line.Reordered other) : Issue.AlikeAll line.modifierIssues other.modifierIssues := by
  have same := pair.perm_modifiers
  have distinct := perm_distinctFrom same
  have dialogue : other.isDialogue = line.isDialogue := by simp only [Line.isDialogue, pair.content]
  have speaker : other.speaker? = line.speaker? := by simp only [Line.speaker?, pair.content]
  have keyword : other.keyword? = line.keyword? := by simp only [Line.keyword?, pair.content]
  simp only [Line.modifierIssues, pair.hasInterrupt, dialogue, pair.persona?, speaker, keyword, distinct.contains_eq]
  refine (((Issue.AlikeAll.of_perm ?_).append (.refl _)).append (.refl _)).append ?_
  · exact (perm_repeatedFrom same).map _
  · exact Conflict.issues_alike distinct line.keyword? line.persona?

theorem blockIssues (pair : line.Reordered other) : Issue.AlikeAll line.blockIssues other.blockIssues := by
  have same := pair.block
  unfold Block.Reordered at same
  split at same
  · rename_i list list' here there
    simp only [Line.blockIssues, here, there, pair.content]
    split
    · refine .single ?_
      have names : ∀ list : List Entry, (list.map Entry.unplaced).map Entry.name = list.map Entry.name := by
        intro list
        rw [List.map_map]
        rfl
      rw [← names list, ← names list']
      exact same.map Entry.name
    · refine Issue.AlikeAll.append (.of_perm ?_) pair.modifierIssues
      refine perm_filterMap_unplaced same fun entry => ?_
      rw [Modifier.ofEntry_unplaced]
  · rename_i differ
    cases here : line.block with
    | entries list => exact absurd (same.symm.trans here) (differ list list here)
    | _ =>
      simp only [Line.blockIssues, ← same, here]
      exact .refl _

theorem issues (pair : line.Reordered other) (labels : LabelTable) (size : Nat) (used : List String) :
    Issue.AlikeAll (line.issues labels size used) (other.issues labels size used) := by
  have speaker : other.speakerIssues = line.speakerIssues := by simp only [Line.speakerIssues, pair.content]
  have directive : other.directiveIssues labels size = line.directiveIssues labels size := by
    simp only [Line.directiveIssues, Line.soundDirectiveIssues, pair.content, pair.hasFlagGate]
  have label : other.labelIssues labels used = line.labelIssues labels used := by
    simp only [Line.labelIssues, pair.definition?, pair.index]
  rw [Line.issues, Line.issues, speaker, directive, label]
  exact ((Issue.AlikeAll.refl _).append pair.blockIssues).append (.refl _)

end Line.Reordered

namespace Script.Reordered
variable {script other : Script}

theorem size (reordered : script.Reordered other) : other.size = script.size :=
  (List.Forall₂.length_eq reordered).symm

theorem labels (reordered : script.Reordered other) : other.labels = script.labels := by
  refine Script.labels_congr (List.Forall₂.imp ?_ reordered)
  intro line line' pair
  rw [pair.definition?, pair.index]

theorem used (reordered : script.Reordered other) : other.used = script.used := by
  simp only [Script.used, reordered.labels]
  have pairs : List.Forall₂ Line.Reordered script.lines other.lines := reordered
  generalize script.lines = lines, other.lines = others at pairs
  induction pairs with
  | nil => rfl
  | cons pair rest ih => rw [List.flatMap_cons, List.flatMap_cons, pair.directive?, ih]

theorem issues_of_pair (reordered : script.Reordered other) {line line' : Line} (pair : line.Reordered line') :
    Issue.AlikeAll (script.issues line) (other.issues line') := by
  rw [Script.issues, Script.issues, reordered.labels, reordered.size, reordered.used]
  exact pair.issues _ _ _

/-- The reports list the same findings, in any order. -/
theorem check (reordered : script.Reordered other) (policy : Policy) :
    Multiset.Rel Finding.Alike (script.check policy : Multiset Finding) (other.check policy : Multiset Finding) := by
  refine rel_flatMap (List.Forall₂.imp ?_ reordered)
  intro line line' pair
  exact (reordered.issues_of_pair pair).findings pair.index policy

theorem accepted (reordered : script.Reordered other) (policy : Policy) :
    script.accepted policy = other.accepted policy := by
  have severities : ((script.check policy).map Finding.severity).Perm ((other.check policy).map Finding.severity) := by
    rw [← Multiset.coe_eq_coe, ← Multiset.map_coe, ← Multiset.map_coe, ← Multiset.rel_eq, Multiset.rel_map]
    exact (reordered.check policy).mono fun _ _ _ _ alike => alike.severity
  have errors : ∀ report : Report, report.hasErrors = (report.map Finding.severity).any (· == .error) := by
    intro report
    rw [List.any_map]
    rfl
  rw [Script.accepted, Script.accepted, errors, errors, severities.any_eq]

end Script.Reordered
end Narrative
