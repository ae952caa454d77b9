import Narrative.Proofs.Script.Composition
import Narrative.Proofs.Script.Layout
import Narrative.Proofs.Text.Lines

/-!
Splitting a source into lines loses nothing. Line by line, the source is the text of the line and its end, which is
carriage returns and a line feed (`Script.Writes`), so that a line stands where its span says (`Writes.covers`). The
number of line feeds gives the number of lines (`length_chunks`). Where carriage returns stand right before line feeds
only, these are the lines of the text in the usual sense (`map_withoutEnd_chunks`).
-/
namespace Narrative

/-- Lines write a text from an offset on: one after the other, each where it stands, and behind it its end, which is
    carriage returns and a line feed. The last one may lack its line feed. -/
inductive Script.Writes : Nat → List Line → List Char → Prop where
  | nil {offset : Nat} : Writes offset [] []
  | last {offset : Nat} {line : Line} (returns : Nat)
      (stands : line.span = ⟨offset, offset + Text.byteLength line.raw.toList⟩) :
      Writes offset [line] (line.raw.toList ++ List.replicate returns '\r')
  | cons {offset : Nat} {line : Line} {lines : List Line} {text : List Char} (returns : Nat)
      (stands : line.span = ⟨offset, offset + Text.byteLength line.raw.toList⟩)
      (later :
        Writes (offset + Text.byteLength (line.raw.toList ++ List.replicate returns '\r' ++ ['\n'])) lines text) :
      Writes offset (line :: lines) (line.raw.toList ++ List.replicate returns '\r' ++ '\n' :: text)

/-- Every carriage return stands right before a line feed. -/
def Text.ReturnsBeforeFeeds (text : List Char) : Prop :=
  ∀ place < text.length, text[place]? = some '\r' → text[place + 1]? = some '\n'

instance (text : List Char) : Decidable (Text.ReturnsBeforeFeeds text) :=
  inferInstanceAs (Decidable (∀ place < text.length, text[place]? = some '\r' → text[place + 1]? = some '\n'))

section
variable {before after : List Char}

theorem Text.ReturnsBeforeFeeds.next (returns : Text.ReturnsBeforeFeeds (before ++ '\r' :: after)) :
    after.head? = some '\n' := by
  have here := returns before.length (by simp) (by simp)
  rw [List.head?_eq_getElem?]
  simpa [List.getElem?_append_right] using here

theorem Text.ReturnsBeforeFeeds.rest (returns : Text.ReturnsBeforeFeeds (before ++ after)) :
    Text.ReturnsBeforeFeeds after := by
  intro place short there
  have moved : ∀ n, (before ++ after)[before.length + n]? = after[n]? := by
    intro n
    rw [List.getElem?_append_right (Nat.le_add_right _ _), Nat.add_sub_cancel_left]
  rw [← moved] at there ⊢
  exact returns _ (by simpa using short) there

end

namespace Script

theorem withoutEnd_append_feed (body : List Char) : withoutEnd (body ++ ['\n']) = withoutEnd body := by
  have feed : (body ++ ['\n']).rdropWhile (· == '\n') = body.rdropWhile (· == '\n') :=
    List.rdropWhile_concat_pos _ _ _ rfl
  rw [withoutEnd_eq, withoutEnd_eq, feed]

section
variable {body : List Char} (free : '\n' ∉ body)
include free

theorem chunks_append_feed (rest : List Char) : chunks (body ++ '\n' :: rest) = (body ++ ['\n']) :: chunks rest := by
  induction body with
  | nil => rfl
  | cons c more ih =>
    rw [List.mem_cons, not_or] at free
    rw [List.cons_append, chunks, if_neg (by simpa using Ne.symm free.1), ih free.2]
    rfl

theorem chunks_of_free (solid : body ≠ []) : chunks body = [body] := by
  induction body with
  | nil => exact absurd rfl solid
  | cons c more ih =>
    rw [List.mem_cons, not_or] at free
    rw [chunks, if_neg (by simpa using Ne.symm free.1)]
    by_cases none : more = []
    · rw [none]
      rfl
    · rw [ih free.2 none]

theorem withoutEnd_of_free : withoutEnd body = body.rdropWhile (· == '\r') := by
  have plain : body.rdropWhile (· == '\n') = body := by
    refine List.rdropWhile_eq_self_iff.mpr fun solid last => free ?_
    rw [← beq_iff_eq.mp last]
    exact List.getLast_mem solid
  rw [withoutEnd_eq, plain]

/-- The end of a line without its line feed is carriage returns. -/
theorem exists_returns : ∃ returns, body = withoutEnd body ++ List.replicate returns '\r' := by
  refine ⟨(body.rtakeWhile (· == '\r')).length, ?_⟩
  have returns : body.rtakeWhile (· == '\r') = List.replicate (body.rtakeWhile (· == '\r')).length '\r' := by
    refine List.eq_replicate_iff.mpr ⟨rfl, fun c inside => ?_⟩
    exact beq_iff_eq.mp (List.mem_rtakeWhile_imp (p := (· == '\r')) inside)
  rw [← returns, withoutEnd_of_free free]
  exact List.rdropWhile_append_rtakeWhile.symm

theorem withoutEnd_subset : withoutEnd body ⊆ body := by
  rw [withoutEnd_of_free free]
  exact (List.rdropWhile_prefix (p := (· == '\r')) body).subset

end

theorem getLast?_withoutEnd (chunk : List Char) : (withoutEnd chunk).getLast? ≠ some '\r' := by
  intro last
  rw [withoutEnd_eq] at last
  have solid : (chunk.rdropWhile (· == '\n')).rdropWhile (· == '\r') ≠ [] := by
    intro none
    rw [none] at last
    cases last
  have ends : ((chunk.rdropWhile (· == '\n')).rdropWhile (· == '\r')).getLast solid = '\r' :=
    Option.some.inj ((List.getLast?_eq_some_getLast solid).symm.trans last)
  exact List.rdropWhile_last_not (· == '\r') _ solid (beq_iff_eq.mpr ends)

/-- Induction along the lines of a text. -/
theorem chunks_induction {motive : List Char → Prop} (nil : motive [])
    (last : ∀ body, '\n' ∉ body → body ≠ [] → motive body)
    (feed : ∀ body rest, '\n' ∉ body → motive rest → motive (body ++ '\n' :: rest)) (text : List Char) :
    motive text := by
  induction text using Text.splitOnP_induction (· == '\n') with
  | part body plain =>
    have free : '\n' ∉ body := fun inside => by simpa using plain _ inside
    by_cases none : body = []
    · rwa [none]
    · exact last body free none
  | more body s rest plain stop ih =>
    have free : '\n' ∉ body := fun inside => by simpa using plain _ inside
    rw [beq_iff_eq.mp stop]
    exact feed body rest free ih

/-- A line feed stands at the end of a line or nowhere in it. -/
theorem exists_body_of_mem_chunks {text chunk : List Char} (member : chunk ∈ chunks text) :
    ∃ body, '\n' ∉ body ∧ (chunk = body ∨ chunk = body ++ ['\n']) := by
  induction text using chunks_induction with
  | nil => cases member
  | last body free solid =>
    rw [chunks_of_free free solid] at member
    exact ⟨body, free, .inl (List.mem_singleton.mp member)⟩
  | feed body rest free ih =>
    rw [chunks_append_feed free] at member
    rcases List.mem_cons.mp member with rfl | later
    · exact ⟨body, free, .inr rfl⟩
    · exact ih later

/-- Without its end a line holds no line feed. -/
theorem free_of_mem_chunks {text chunk : List Char} (member : chunk ∈ chunks text) : '\n' ∉ withoutEnd chunk := by
  obtain ⟨body, free, rfl | rfl⟩ := exists_body_of_mem_chunks member
  · exact fun inside => free (withoutEnd_subset free inside)
  · rw [withoutEnd_append_feed]
    exact fun inside => free (withoutEnd_subset free inside)

theorem writes_linesFrom (index offset : Nat) (text : List Char) :
    Writes offset (linesFrom index offset (chunks text)) text := by
  induction text using chunks_induction generalizing index offset with
  | nil => exact .nil
  | last body free solid =>
    obtain ⟨returns, shape⟩ := exists_returns free
    have raw : (Line.ofText index offset (withoutEnd body)).raw.toList = withoutEnd body := String.toList_ofList
    have written : Writes offset [Line.ofText index offset (withoutEnd body)] _ := .last returns (by rw [raw]; rfl)
    rw [raw, ← shape] at written
    rwa [chunks_of_free free solid]
  | feed body rest free ih =>
    obtain ⟨returns, shape⟩ := exists_returns free
    have raw : (Line.ofText index offset (withoutEnd body)).raw.toList = withoutEnd body := String.toList_ofList
    have later := ih (index + 1) (offset + Text.byteLength (body ++ ['\n']))
    have written : Writes offset (Line.ofText index offset (withoutEnd body) :: _) _ :=
      .cons returns (by rw [raw]; rfl) (by rw [raw, ← shape]; exact later)
    rw [raw, ← shape] at written
    rwa [chunks_append_feed free, linesFrom, withoutEnd_append_feed]

theorem length_chunks (text : List Char) : (chunks text).length =
    text.count '\n' + if text = [] ∨ text.getLast? = some '\n' then 0 else 1 := by
  induction text using chunks_induction with
  | nil => rfl
  | last body free solid =>
    have open_end : ¬ (body = [] ∨ body.getLast? = some '\n') := by
      rintro (none | last)
      · exact solid none
      · exact free (List.mem_of_getLast? last)
    rw [chunks_of_free free solid, if_neg open_end, List.count_eq_zero_of_not_mem free]
    rfl
  | feed body rest free ih =>
    have ended : (body ++ '\n' :: rest = [] ∨ (body ++ '\n' :: rest).getLast? = some '\n') ↔
        (rest = [] ∨ rest.getLast? = some '\n') := by
      cases rest with
      | nil => simp
      | cons c more => simp [List.getLast?_append]
    simp only [chunks_append_feed free, List.length_cons, ih, ended, List.count_append, List.count_cons_self,
      List.count_eq_zero_of_not_mem free]
    omega

end Script

namespace Script.Writes
variable {offset : Nat} {lines : List Line} {text : List Char}

theorem covers (writes : Writes offset lines text) {line : Line} (member : line ∈ lines) :
    line.span.Covers offset text line.raw.toList := by
  induction writes with
  | nil => cases member
  | @last offset first returns stands =>
    rw [List.mem_singleton.mp member, stands]
    exact ⟨[], List.replicate returns '\r', by simp, by simp [Text.byteLength]⟩
  | @cons offset first lines text returns stands later ih =>
    rcases List.mem_cons.mp member with rfl | behind
    · rw [stands]
      exact ⟨[], List.replicate returns '\r' ++ '\n' :: text, by simp, by simp [Text.byteLength]⟩
    · rw [List.append_cons]
      exact (ih behind).behind

end Script.Writes

namespace Script

theorem withoutEnd_of_plain {line : List Char} (free : '\n' ∉ line) (plain : '\r' ∉ line) : withoutEnd line = line := by
  rw [withoutEnd_of_free free]
  refine List.rdropWhile_eq_self_iff.mpr fun solid last => plain ?_
  rw [← beq_iff_eq.mp last]
  exact List.getLast_mem solid

theorem withoutEnd_append_return {line : List Char} (free : '\n' ∉ line) (plain : '\r' ∉ line) :
    withoutEnd (line ++ ['\r']) = line := by
  have free' : '\n' ∉ line ++ ['\r'] := by simpa using free
  rw [withoutEnd_of_free free', List.rdropWhile_concat_pos _ _ _ rfl, ← withoutEnd_of_free free,
    withoutEnd_of_plain free plain]

/-- Where carriage returns stand right before line feeds only, no more than one belongs to the end of a line. -/
theorem map_withoutEnd_chunks {text : List Char} (returns : Text.ReturnsBeforeFeeds text) :
    (chunks text).map withoutEnd = Text.lines text := by
  induction text using chunks_induction with
  | nil => rfl
  | last body free solid =>
    have plain : '\r' ∉ body := by
      intro inside
      obtain ⟨before, after, rfl⟩ := List.append_of_mem inside
      have feed := List.mem_of_head? returns.next
      exact free (List.mem_append_right before (List.mem_cons_of_mem _ feed))
    rw [chunks_of_free free solid, Text.lines_of_free free solid, List.map_singleton, withoutEnd_of_plain free plain]
  | feed body rest free ih =>
    have later : (chunks rest).map withoutEnd = Text.lines rest := by
      rw [List.append_cons] at returns
      exact ih returns.rest
    rw [chunks_append_feed free, List.map_cons, withoutEnd_append_feed, later]
    by_cases inside : '\r' ∈ body
    · obtain ⟨line, after, rfl, plain⟩ := List.eq_append_cons_of_mem inside
      -- Only the line feed that ends the line can follow.
      rw [List.append_assoc, List.cons_append] at returns
      have next := returns.next
      cases after with
      | cons d more =>
        cases next
        exact absurd (by simp) free
      | nil =>
        have free' : '\n' ∉ line := fun there => free (List.mem_append_left _ there)
        rw [withoutEnd_append_return free' plain, List.append_assoc]
        exact (Text.lines_append_return free' rest).symm
    · have open_end : body.getLast? ≠ some '\r' := fun last => inside (List.mem_of_getLast? last)
      rw [withoutEnd_of_plain free inside, Text.lines_append_feed free open_end]

theorem map_raw_linesFrom (index offset : Nat) (chunks : List (List Char)) :
    (linesFrom index offset chunks).map Line.raw = (chunks.map withoutEnd).map String.ofList := by
  induction chunks generalizing index offset with
  | nil => rfl
  | cons chunk rest ih =>
    rw [linesFrom, List.map_cons, ih]
    rfl

/-- The text of a line is that of a piece of the source without its end. -/
theorem exists_chunk_of_parse {name source : String} {line : Line} (member : line ∈ (parse name source).lines) :
    ∃ chunk ∈ chunks source.toList, line.raw.toList = withoutEnd chunk := by
  have raw : line.raw ∈ ((chunks source.toList).map withoutEnd).map String.ofList := by
    rw [← map_raw_linesFrom 0 0]
    exact List.mem_map_of_mem member
  simp only [List.mem_map] at raw
  obtain ⟨_, ⟨chunk, listed, rfl⟩, same⟩ := raw
  exact ⟨chunk, listed, by rw [← same, String.toList_ofList]⟩

theorem map_index_parse (name source : String) :
    (parse name source).lines.map Line.index = List.range (parse name source).size := by
  refine List.ext_getElem (by simp [size]) fun place first second => ?_
  rw [List.getElem_map, List.getElem_range]
  exact index_of_parse (List.getElem?_eq_getElem _)

/-- A source is its lines, each in front of its end: carriage returns and a line feed, which the last one may lack. The
    lines know their places and stand where their spans say; a line has no line feed and does not end in a carriage
    return, and there is one for each line feed and one more for a rest behind the last. Where each carriage return is
    followed by a line feed, they are the lines of the text in the usual sense. -/
theorem parse_lossless (name source : String) :
    let script := parse name source
    Writes 0 script.lines source.toList ∧
    script.lines.map Line.index = List.range script.size ∧
    (∀ line ∈ script.lines, line.span.Covers 0 source.toList line.raw.toList ∧
      '\n' ∉ line.raw.toList ∧ line.raw.toList.getLast? ≠ some '\r') ∧
    script.size = source.toList.count '\n' + (if source = "" ∨ source.toList.getLast? = some '\n' then 0 else 1) ∧
    (Text.ReturnsBeforeFeeds source.toList →
      script.lines.map Line.raw = (Text.lines source.toList).map String.ofList) := by
  intro script
  have writes : Writes 0 script.lines source.toList := writes_linesFrom 0 0 source.toList
  refine ⟨writes, map_index_parse name source, ?_, ?_, ?_⟩
  · intro line member
    obtain ⟨chunk, listed, raw⟩ := exists_chunk_of_parse member
    refine ⟨writes.covers member, ?_, ?_⟩
    · rw [raw]
      exact free_of_mem_chunks listed
    · rw [raw]
      exact getLast?_withoutEnd chunk
  · have count : script.size = (chunks source.toList).length := length_linesFrom 0 0 _
    have empty : source = "" ↔ source.toList = [] := String.toList_eq_nil_iff.symm
    simp only [count, length_chunks, empty]
  · intro returns
    rw [← map_withoutEnd_chunks returns]
    exact map_raw_linesFrom 0 0 _

theorem parse_lossless_of_returns :
    let source := "Hero: é\r\n\r\nCold: no /// (ß\n"
    Text.ReturnsBeforeFeeds source.toList ∧
      (parse "s" source).lines.map Line.raw = ["Hero: é", "", "Cold: no /// (ß"] := by
  intro source
  have returns : Text.ReturnsBeforeFeeds source.toList := by decide +kernel
  have lines : (Text.lines source.toList).map String.ofList = ["Hero: é", "", "Cold: no /// (ß"] := by decide +kernel
  exact ⟨returns, ((parse_lossless "s" source).2.2.2.2 returns).trans lines⟩

end Script
end Narrative
