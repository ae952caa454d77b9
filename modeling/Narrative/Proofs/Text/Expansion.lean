import Mathlib.Data.List.Find
import Mathlib.Data.List.Infix
import Narrative.Menu.Choice

/-!
Placeholders filled in all at once and in turn. In one pass over a text each placeholder gives way to its value, and
what is put in is not looked at again (`expand`). Where they are filled in one after the other (`fillInTurn`), a value
is looked at again for the placeholders whose turn is still to come. So as long as every brace is closed before another
opens, the text comes to one pass with the values so filled in (`fillInTurn_eq_expand`), and to one pass with the
values themselves where none of them has a placeholder whose turn is still to come (`fillInTurn_of_untangled`).
-/
namespace Narrative.Text

/-- Fills in the placeholders with the names of `fills` in one pass, after passing over the first `skip` characters,
    which belong to a placeholder that has been filled in. -/
def expandFrom (fills : List (String × String)) : Nat → List Char → List Char
  | _, [] => []
  | skip + 1, _ :: rest => expandFrom fills skip rest
  | 0, c :: rest =>
    match fills.find? fun fill => (Choice.placeholder fill.1).toList.isPrefixOf (c :: rest) with
    | some fill => fill.2.toList ++ expandFrom fills ((Choice.placeholder fill.1).toList.length - 1) rest
    | none => c :: expandFrom fills 0 rest

/-- The text with each of the placeholders in it replaced by its value, and everything else as it is. -/
def expand (fills : List (String × String)) (text : String) : String :=
  String.ofList (expandFrom fills 0 text.toList)

/-- A text has no brace. -/
def Braceless (text : List Char) : Prop := '\x7b' ∉ text ∧ '\x7d' ∉ text

instance (text : List Char) : Decidable (Braceless text) := inferInstanceAs (Decidable (_ ∧ _))

/-- A text consists of groups in braces and of characters that open none. -/
inductive Grouped : List Char → Prop where
  | nil : Grouped []
  | plain {c : Char} {rest : List Char} (plain : c ≠ '\x7b') (after : Grouped rest) : Grouped (c :: rest)
  | group {body rest : List Char} (braceless : Braceless body) (after : Grouped rest) :
      Grouped ('\x7b' :: (body ++ '\x7d' :: rest))

/-- Each opening brace of a text is closed before another opens. -/
def Closed (text : String) : Prop := Grouped text.toList

/-- The text with the placeholders replaced by their values one after the other. -/
def fillInTurn (fills : List (String × String)) (text : String) : String :=
  fills.foldl (fun text fill => substitute (Choice.placeholder fill.1) fill.2 text) text

/-- Each value as it is when its own turn and all later ones are over. -/
def settled : List (String × String) → List (String × String)
  | [] => []
  | fill :: later => (fill.1, fillInTurn later fill.2) :: settled later

/-- No value has a placeholder that is filled in after its own. -/
def Untangled (fills : List (String × String)) : Prop :=
  fills.Pairwise fun fill later => ¬ (Choice.placeholder later.1).toList <:+: fill.2.toList

instance (fills : List (String × String)) : Decidable (Untangled fills) :=
  inferInstanceAs (Decidable (fills.Pairwise _))

theorem toList_placeholder (name : String) :
    (Choice.placeholder name).toList = '\x7b' :: (name.toList ++ ['\x7d']) := by
  simp [Choice.placeholder]

theorem substituteFrom_eq_expandFrom (name value : String) (skip : Nat) (text : List Char) :
    substituteFrom (Choice.placeholder name).toList value.toList skip text = expandFrom [(name, value)] skip text := by
  induction text generalizing skip with
  | nil => cases skip <;> rfl
  | cons c rest ih =>
    cases skip with
    | succ skip => exact ih skip
    | zero =>
      by_cases here : (Choice.placeholder name).toList.isPrefixOf (c :: rest) = true
      · simp [substituteFrom, expandFrom, here, ih]
      · simp [substituteFrom, expandFrom, here, ih]

theorem substitute_eq_expand (name value text : String) :
    substitute (Choice.placeholder name) value text = expand [(name, value)] text := by
  rw [substitute, expand, substituteFrom_eq_expandFrom]

theorem Grouped.append {text rest : List Char} (first : Grouped text) (second : Grouped rest) :
    Grouped (text ++ rest) := by
  induction first with
  | nil => exact second
  | plain plain _ ih => exact .plain plain ih
  | group braceless _ ih =>
    rw [List.cons_append, List.append_assoc, List.cons_append]
    exact .group braceless ih

/-- Whether each opening brace is closed before another opens, where one may be open at the start. -/
def closes : Bool → List Char → Bool
  | isOpen, [] => !isOpen
  | isOpen, c :: rest =>
    if c = '\x7b' then !isOpen && closes true rest
    else if c = '\x7d' then closes false rest
    else closes isOpen rest

/-- A text that is found closed consists of groups; one with a brace open at its start goes on with the end of a
    group. -/
theorem grouped_of_closes (text : List Char) :
    (closes false text = true → Grouped text) ∧
      (closes true text = true → ∃ body rest, text = body ++ '\x7d' :: rest ∧ Braceless body ∧ Grouped rest) := by
  induction text with
  | nil => simp [closes, Grouped.nil]
  | cons c text ih =>
    by_cases opening : c = '\x7b'
    · refine ⟨fun closed => ?_, fun closed => by simp [closes, opening] at closed⟩
      obtain ⟨body, rest, rfl, braceless, after⟩ := ih.2 (by simpa [closes, opening] using closed)
      rw [opening]
      exact .group braceless after
    by_cases closing : c = '\x7d'
    · refine ⟨fun closed => .plain opening (ih.1 (by simpa [closes, closing] using closed)), fun closed => ?_⟩
      refine ⟨[], text, by rw [closing, List.nil_append], by simp [Braceless], ih.1 ?_⟩
      simpa [closes, closing] using closed
    · refine ⟨fun closed => .plain opening (ih.1 (by simpa [closes, opening, closing] using closed)), fun closed => ?_⟩
      obtain ⟨body, rest, rfl, braceless, after⟩ := ih.2 (by simpa [closes, opening, closing] using closed)
      refine ⟨c :: body, rest, rfl, ?_, after⟩
      simp only [Braceless, List.mem_cons, not_or]
      exact ⟨⟨Ne.symm opening, braceless.1⟩, Ne.symm closing, braceless.2⟩

theorem closes_group {body : List Char} (braceless : Braceless body) (rest : List Char) :
    closes true (body ++ '\x7d' :: rest) = closes false rest := by
  induction body with
  | nil => rfl
  | cons c body ih =>
    simp only [Braceless, List.mem_cons, not_or] at braceless
    obtain ⟨⟨opening, noOpening⟩, closing, noClosing⟩ := braceless
    rw [List.cons_append, closes, if_neg (Ne.symm opening), if_neg (Ne.symm closing), ih ⟨noOpening, noClosing⟩]

theorem grouped_iff_closes (text : List Char) : Grouped text ↔ closes false text = true := by
  refine ⟨fun grouped => ?_, (grouped_of_closes text).1⟩
  induction grouped with
  | nil => rfl
  | @plain c rest plain _ ih =>
    rw [closes, if_neg plain, ih]
    split <;> rfl
  | group braceless _ ih => rw [closes, if_pos rfl, closes_group braceless, ih]; rfl

instance (text : String) : Decidable (Closed text) := decidable_of_iff _ (grouped_iff_closes text.toList).symm

/-- What a group in braces is written as: the value of its name, or itself. -/
def groupValue (fills : List (String × String)) (body : List Char) : List Char :=
  match fills.find? fun fill => fill.1.toList == body with
  | some fill => fill.2.toList
  | none => '\x7b' :: (body ++ ['\x7d'])

section
variable {fills : List (String × String)}

theorem expandFrom_skip (passed rest : List Char) :
    expandFrom fills passed.length (passed ++ rest) = expandFrom fills 0 rest := by
  induction passed with
  | nil => rfl
  | cons c passed ih => exact ih

theorem expandFrom_plain {c : Char} (plain : c ≠ '\x7b') (rest : List Char) :
    expandFrom fills 0 (c :: rest) = c :: expandFrom fills 0 rest := by
  have none_begins : fills.find? (fun fill => (Choice.placeholder fill.1).toList.isPrefixOf (c :: rest)) = none := by
    simp [toList_placeholder, List.isPrefixOf, Ne.symm plain]
  rw [expandFrom, none_begins]

theorem expandFrom_append_of_notMem {body : List Char} (plain : '\x7b' ∉ body) (rest : List Char) :
    expandFrom fills 0 (body ++ rest) = body ++ expandFrom fills 0 rest := by
  induction body with
  | nil => rfl
  | cons c body ih =>
    simp only [List.mem_cons, not_or] at plain
    rw [List.cons_append, expandFrom_plain (Ne.symm plain.1), ih plain.2, List.cons_append]

private theorem takeWhile_append_cons {c : Char} {text : List Char} (absent : c ∉ text) (rest : List Char) :
    (text ++ c :: rest).takeWhile (· != c) = text := by
  rw [List.takeWhile_append_of_pos]
  · simp
  · intro d member
    simpa using fun equal : d = c => absent (equal ▸ member)

theorem isPrefixOf_group_iff {name : String} (named : Braceless name.toList) {body : List Char}
    (braceless : Braceless body) (rest : List Char) :
    (Choice.placeholder name).toList.isPrefixOf ('\x7b' :: (body ++ '\x7d' :: rest)) = true ↔ name.toList = body := by
  rw [List.isPrefixOf_iff_prefix, toList_placeholder, List.cons_prefix_cons]
  constructor
  · rintro ⟨_, after, same⟩
    rw [List.append_assoc, List.singleton_append] at same
    -- Up to the first closing brace the two texts are the name and the body.
    rw [← takeWhile_append_cons named.2 after, same, takeWhile_append_cons braceless.2]
  · rintro rfl
    exact ⟨rfl, rest, by simp⟩

theorem expandFrom_group (names : ∀ fill ∈ fills, Braceless fill.1.toList) {body : List Char}
    (braceless : Braceless body) (rest : List Char) :
    expandFrom fills 0 ('\x7b' :: (body ++ '\x7d' :: rest)) = groupValue fills body ++ expandFrom fills 0 rest := by
  have found : fills.find? (fun fill => (Choice.placeholder fill.1).toList.isPrefixOf
      ('\x7b' :: (body ++ '\x7d' :: rest))) = fills.find? fun fill => fill.1.toList == body := by
    refine List.find?_congr fun fill member => ?_
    rw [Bool.eq_iff_iff, isPrefixOf_group_iff (names fill member) braceless, beq_iff_eq]
  rw [expandFrom, found, groupValue]
  cases named : fills.find? fun fill => fill.1.toList == body with
  | some fill =>
    have same : fill.1.toList = body := by simpa using List.find?_some named
    have length : (Choice.placeholder fill.1).toList.length - 1 = (body ++ ['\x7d']).length := by
      rw [toList_placeholder, same]
      rfl
    have passed : expandFrom fills (body ++ ['\x7d']).length (body ++ '\x7d' :: rest) = expandFrom fills 0 rest := by
      rw [← expandFrom_skip (body ++ ['\x7d']) rest, List.append_assoc, List.singleton_append]
    simp only [length, passed]
  | none =>
    simp only [expandFrom_append_of_notMem braceless.1, expandFrom_plain (show '\x7d' ≠ '\x7b' by decide)]
    simp

theorem expandFrom_append (names : ∀ fill ∈ fills, Braceless fill.1.toList) {text : List Char} (grouped : Grouped text)
    (rest : List Char) : expandFrom fills 0 (text ++ rest) = expandFrom fills 0 text ++ expandFrom fills 0 rest := by
  induction grouped with
  | nil => rfl
  | plain plain _ ih => rw [List.cons_append, expandFrom_plain plain, expandFrom_plain plain, ih, List.cons_append]
  | @group body after braceless _ ih =>
    rw [List.cons_append, List.append_assoc, List.cons_append, expandFrom_group names braceless,
      expandFrom_group names braceless, ih, List.append_assoc]

theorem grouped_expandFrom {fill : String × String} (named : Braceless fill.1.toList)
    (value : Grouped fill.2.toList) {text : List Char} (grouped : Grouped text) :
    Grouped (expandFrom [fill] 0 text) := by
  induction grouped with
  | nil => exact .nil
  | plain plain _ ih =>
    rw [expandFrom_plain plain]
    exact .plain plain ih
  | @group body after braceless _ ih =>
    rw [expandFrom_group (by simpa using named) braceless, groupValue]
    by_cases same : fill.1.toList = body
    · simpa [same] using value.append ih
    · simpa [same] using Grouped.group braceless ih

/-- A placeholder that is filled in before others comes to one that is filled in with them, but by a value that has
    them filled in. -/
theorem expandFrom_expandFrom {name value filled : String} (named : Braceless name.toList)
    (names : ∀ fill ∈ fills, Braceless fill.1.toList) (grouped : Grouped value.toList)
    (fills_value : filled.toList = expandFrom fills 0 value.toList) {text : List Char} (closed : Grouped text) :
    expandFrom fills 0 (expandFrom [(name, value)] 0 text) = expandFrom ((name, filled) :: fills) 0 text := by
  have one : ∀ fill ∈ [(name, value)], Braceless fill.1.toList := by simpa using named
  have all : ∀ fill ∈ (name, filled) :: fills, Braceless fill.1.toList := List.forall_mem_cons.mpr ⟨named, names⟩
  induction closed with
  | nil => rfl
  | plain plain _ ih => rw [expandFrom_plain plain, expandFrom_plain plain, expandFrom_plain plain, ih]
  | @group body after braceless _ ih =>
    rw [expandFrom_group one braceless, expandFrom_group all braceless, ← ih]
    by_cases same : name.toList = body
    · have first : groupValue [(name, value)] body = value.toList := by simp [groupValue, same]
      have both : groupValue ((name, filled) :: fills) body = filled.toList := by simp [groupValue, same]
      rw [first, both, fills_value, expandFrom_append names grouped]
    · have whole : groupValue [(name, value)] body = '\x7b' :: (body ++ ['\x7d']) := by simp [groupValue, same]
      have others : groupValue ((name, filled) :: fills) body = groupValue fills body := by simp [groupValue, same]
      rw [whole, others, ← expandFrom_group names braceless]
      simp

end

theorem expand_nil (text : String) : expand [] text = text := by
  have copied : ∀ rest : List Char, expandFrom [] 0 rest = rest := by
    intro rest
    induction rest with
    | nil => rfl
    | cons c rest ih => simp [expandFrom, ih]
  rw [expand, copied, String.ofList_toList]

theorem braceless_settled {fills : List (String × String)} (names : ∀ fill ∈ fills, Braceless fill.1.toList) :
    ∀ fill ∈ settled fills, Braceless fill.1.toList := by
  induction fills with
  | nil => exact names
  | cons fill later ih =>
    obtain ⟨named, names⟩ := List.forall_mem_cons.mp names
    exact List.forall_mem_cons.mpr ⟨named, ih names⟩

/-- Where all braces are closed, filling in placeholders one after the other comes to one pass with the values that
    have the later ones filled in. Whether the braces of the last value are closed does not matter. -/
theorem fillInTurn_eq_expand {fills : List (String × String)} (names : ∀ fill ∈ fills, Braceless fill.1.toList)
    (values : ∀ fill ∈ fills.dropLast, Closed fill.2) {text : String} (closed : Closed text) :
    fillInTurn fills text = expand (settled fills) text := by
  -- On the placeholders, for all closed texts at once: what comes of the first is such a text again, and the value
  -- of the first is one too.
  induction fills generalizing text with
  | nil => exact (expand_nil text).symm
  | cons fill later ih =>
    obtain ⟨named, names⟩ := List.forall_mem_cons.mp names
    rw [fillInTurn, List.foldl_cons, substitute_eq_expand]
    cases later with
    | nil => rfl
    | cons next later =>
      obtain ⟨value, values⟩ := List.forall_mem_cons.mp values
      have after : Closed (expand [fill] text) := by
        rw [Closed, expand, String.toList_ofList]
        exact grouped_expandFrom named value closed
      have filled : (fillInTurn (next :: later) fill.2).toList =
          expandFrom (settled (next :: later)) 0 fill.2.toList := by
        rw [ih names values value, expand, String.toList_ofList]
      have turns := ih names values after
      rw [fillInTurn] at turns
      rw [turns, expand, expand, expand, String.toList_ofList,
        expandFrom_expandFrom named (braceless_settled names) value filled closed]
      rfl

theorem expandFrom_of_free {fills : List (String × String)} (names : ∀ fill ∈ fills, Braceless fill.1.toList)
    {value : List Char} (grouped : Grouped value)
    (free : ∀ fill ∈ fills, ¬ (Choice.placeholder fill.1).toList <:+: value) : expandFrom fills 0 value = value := by
  induction grouped with
  | nil => rfl
  | plain plain _ ih =>
    rw [expandFrom_plain plain]
    rw [ih fun fill member inside => free fill member (inside.trans (List.suffix_cons _ _).isInfix)]
  | @group body after braceless _ ih =>
    have unnamed : fills.find? (fun fill => fill.1.toList == body) = none := by
      refine List.find?_eq_none.mpr fun fill member same => free fill member ?_
      rw [toList_placeholder, beq_iff_eq.mp same]
      exact ⟨[], after, by simp⟩
    have kept : ∀ fill ∈ fills, ¬ (Choice.placeholder fill.1).toList <:+: after := by
      intro fill member inside
      refine free fill member (inside.trans ?_)
      exact ⟨'\x7b' :: (body ++ ['\x7d']), [], by simp⟩
    rw [expandFrom_group names braceless, ih kept, groupValue, unnamed]
    simp

/-- Where no value has a placeholder whose turn is still to come, every value stays as it is. -/
theorem settled_of_untangled {fills : List (String × String)} (names : ∀ fill ∈ fills, Braceless fill.1.toList)
    (values : ∀ fill ∈ fills.dropLast, Closed fill.2) (untangled : Untangled fills) : settled fills = fills := by
  induction fills with
  | nil => rfl
  | cons fill later ih =>
    cases later with
    | nil => rfl
    | cons next later =>
      obtain ⟨_, names⟩ := List.forall_mem_cons.mp names
      obtain ⟨value, values⟩ := List.forall_mem_cons.mp values
      obtain ⟨free, untangled⟩ := List.pairwise_cons.mp untangled
      have same := ih names values untangled
      have kept : fillInTurn (next :: later) fill.2 = fill.2 := by
        rw [fillInTurn_eq_expand names values value, same, expand, expandFrom_of_free names value free,
          String.ofList_toList]
      rw [settled, same, kept]

theorem fillInTurn_of_untangled {fills : List (String × String)} (names : ∀ fill ∈ fills, Braceless fill.1.toList)
    (values : ∀ fill ∈ fills.dropLast, Closed fill.2) {text : String} (closed : Closed text)
    (untangled : Untangled fills) : fillInTurn fills text = expand fills text := by
  rw [fillInTurn_eq_expand names values closed, settled_of_untangled names values untangled]

end Narrative.Text
