import Mathlib.Data.List.TakeWhile
import ModelViews.Console.Screen
import ModelViews.Proofs.Cutting
import ModelViews.Proofs.Outcomes
import ModelViews.Proofs.TextParts

namespace ModelViews

namespace StyledText

structure Within (chars : Char → Prop) (styles : String → Prop) (text : StyledText) : Prop where
  plain : ∀ c ∈ text.plain, chars c
  stretches : ∀ stretch ∈ text.stretches, styles stretch.style

variable {chars : Char → Prop} {styles : String → Prop} {text first second : StyledText}
  {stretches : List Stretch} {plain : List Char} {limit : Nat}

private theorem within_free (noJoiner : Cells.joiner ∉ text.plain) :
    text.Within (· ≠ Cells.joiner) fun _ => True :=
  ⟨fun _ member same => noJoiner (same ▸ member), fun _ _ => trivial⟩

private theorem style_within {start stop : Nat} {stretch left : Stretch}
    (found : stretch.within? start stop = some left) : left.style = stretch.style := by
  rw [Stretch.within?] at found
  split at found
  · rw [← Option.some.inj found]
  · cases found

private theorem style_before {stop : Nat} {stretch left : Stretch}
    (found : stretch.before? stop = some left) : left.style = stretch.style := by
  rw [Stretch.before?] at found
  split at found
  · rw [← Option.some.inj found]
  · cases found

private theorem within_part (styled : ∀ stretch ∈ stretches, styles stretch.style) (start : Nat)
    (among : ∀ c ∈ plain, chars c) : Within chars styles (part stretches start plain) := by
  refine ⟨among, fun stretch member => ?_⟩
  obtain ⟨whole, inside, found⟩ := List.mem_filterMap.mp member
  rw [style_within found]
  exact styled whole inside

private theorem within_partsFrom (styled : ∀ stretch ∈ stretches, styles stretch.style)
    (start : Nat)
    (lengths : List Nat) (among : ∀ c ∈ plain, chars c) :
    ∀ piece ∈ partsFrom stretches start lengths plain, Within chars styles piece := by
  induction lengths generalizing start plain with
  | nil => exact List.forall_mem_singleton.mpr (within_part styled start among)
  | cons length lengths ih =>
      exact List.forall_mem_cons.mpr
        ⟨within_part styled start fun c member => among c (List.mem_of_mem_take member),
          ih (start + length) fun c member => among c (List.mem_of_mem_drop member)⟩

private theorem within_parts (within : text.Within chars styles) (lengths : List Nat) :
    ∀ piece ∈ text.parts lengths, Within chars styles piece := by
  rw [parts]
  split
  · exact List.forall_mem_singleton.mpr within
  · exact within_partsFrom within.stretches 0 lengths within.plain

private theorem within_linesFrom (styled : ∀ stretch ∈ stretches, styles stretch.style)
    (start : Nat)
    {lines : List (List Char)} (among : ∀ line ∈ lines, ∀ c ∈ line, chars c) :
    ∀ line ∈ linesFrom stretches start lines, Within chars styles line := by
  induction lines generalizing start with
  | nil => exact List.forall_mem_nil _
  | cons line rest ih =>
      obtain ⟨head, others⟩ := List.forall_mem_cons.mp among
      exact List.forall_mem_cons.mpr ⟨within_part styled start head, ih _ others⟩

theorem within_lines (within : text.Within chars styles) :
    ∀ line ∈ text.lines, Within chars styles line := by
  rw [lines]
  split
  · exact within_linesFrom within.stretches 0 fun line member c inside =>
      within.plain c (Text.mem_of_mem_splitOn member inside)
  · exact List.forall_mem_singleton.mpr within

@[simp] theorem plain_withPlain (plain : List Char) (text : StyledText) :
    (text.withPlain plain).plain = plain := by
  rw [withPlain]
  split <;> rfl

private theorem within_withPlain (within : text.Within chars styles)
    (among : ∀ c ∈ plain, chars c) :
    Within chars styles (text.withPlain plain) := by
  rw [withPlain]
  split
  · refine ⟨among, fun stretch member => ?_⟩
    obtain ⟨whole, inside, found⟩ := List.mem_filterMap.mp member
    rw [style_before found]
    exact within.stretches whole inside
  · exact ⟨among, within.stretches⟩

private theorem within_append (one : first.Within chars styles)
    (other : second.Within chars styles) :
    Within chars styles (first ++ second) := by
  refine ⟨List.forall_mem_append.mpr ⟨one.plain, other.plain⟩,
    List.forall_mem_append.mpr ⟨one.stretches, fun stretch member => ?_⟩⟩
  obtain ⟨whole, inside, rfl⟩ := List.mem_map.mp member
  exact other.stretches whole inside

variable (space : chars ' ')
include space

private theorem within_widen (within : text.Within chars styles) (count : Nat) :
    Within chars styles (text.widen count) := by
  refine ⟨List.forall_mem_append.mpr ⟨within.plain, fun c member => ?_⟩, fun stretch member => ?_⟩
  · rw [List.eq_of_mem_replicate member]
    exact space
  · obtain ⟨whole, inside, rfl⟩ := List.mem_map.mp member
    split
    · exact within.stretches whole inside
    · exact within.stretches whole inside

private theorem within_joinTabbed (column : Nat) {pieces : List StyledText}
    (within : ∀ piece ∈ pieces, Within chars styles piece) :
    Within chars styles (joinTabbed column pieces) := by
  induction pieces generalizing column with
  | nil => exact ⟨List.forall_mem_nil _, List.forall_mem_nil _⟩
  | cons piece rest ih =>
      obtain ⟨head, others⟩ := List.forall_mem_cons.mp within
      cases rest with
      | nil => exact head
      | cons next rest =>
          have filled : Within chars styles { piece with plain := piece.plain.dropLast ++ [' '] } :=
            ⟨List.forall_mem_append.mpr
              ⟨fun c member => head.plain c (List.mem_of_mem_dropLast member),
                List.forall_mem_singleton.mpr space⟩, head.stretches⟩
          exact within_append (within_widen space filled _) (ih _ others)

private theorem within_expandTabs (within : text.Within chars styles) :
    Within chars styles text.expandTabs :=
  within_joinTabbed space 0 (within_parts within _)

private theorem within_truncate (within : text.Within chars styles)
    (gave : text.truncate limit = .ok first) : Within chars styles first := by
  rw [truncate] at gave
  split at gave
  · obtain ⟨fitted, fits, gave⟩ := bind_eq_ok.mp gave
    rw [← Except.ok.inj gave]
    refine within_withPlain within fun c member => ?_
    rcases Cells.mem_fit fits member with rfl | inside
    · exact space
    · exact within.plain c inside
  · rw [← Except.ok.inj gave]
    exact within

omit space

private theorem segmentsFrom_flatten (start : Nat) (edges : List Nat) (plain : List Char) :
    (segmentsFrom start edges plain).flatten = plain := by
  induction edges generalizing start plain with
  | nil => simp [segmentsFrom]
  | cons edge edges ih =>
      rw [segmentsFrom]
      split
      · exact ih start plain
      · rw [List.flatten_cons, ih, List.take_append_drop]

theorem segments_flatten (text : StyledText) : text.segments.flatten = text.plain :=
  segmentsFrom_flatten 0 text.edges text.plain

private theorem joiner_of_truncate {error : Cells.CutError}
    (failed : text.truncate limit = .error error) :
    Cells.joiner ∈ text.plain := by
  rw [truncate] at failed
  split at failed
  · rcases bind_eq_error.mp failed with unfit | ⟨_, _, failed⟩
    · exact Cells.joiner_of_fit unfit
    · cases failed
  · cases failed

private theorem joiner_of_cropFrom {used : Nat} {segments : List (List Char)}
    {error : Cells.CutError}
    (failed : cropFrom limit used segments = .error error) :
    ∃ segment ∈ segments, Cells.joiner ∈ segment := by
  induction segments generalizing used with
  | nil => cases failed
  | cons segment rest ih =>
      rw [cropFrom] at failed
      split at failed
      · rcases bind_eq_error.mp failed with later | ⟨_, _, failed⟩
        · obtain ⟨other, inside, joined⟩ := ih later
          exact ⟨other, List.mem_cons_of_mem segment inside, joined⟩
        · cases failed
      · exact ⟨segment, List.mem_cons_self, Cells.joiner_of_fit failed⟩

private theorem joiner_of_crop {error : Cells.CutError} (failed : text.crop limit = .error error) :
    Cells.joiner ∈ text.plain := by
  rw [crop] at failed
  split at failed
  · obtain ⟨segment, inside, joined⟩ := joiner_of_cropFrom failed
    rw [← segments_flatten text]
    exact List.mem_flatten.mpr ⟨segment, inside, joined⟩
  · cases failed

end StyledText

namespace Paragraph

open StyledText

variable {chars : Char → Prop} {styles : String → Prop} {text line : StyledText}
  {lines : List StyledText} {limit : Nat}

private theorem within_settle (space : chars ' ') (within : line.Within chars styles)
    (gave : settle limit line = .ok text) : Within chars styles text :=
  within_truncate space
    (within_withPlain within fun c member => within.plain c (List.mem_of_mem_take member)) gave

private theorem within_broken (space : chars ' ') (within : line.Within chars styles)
    (gave : broken limit line = .ok lines) : ∀ other ∈ lines, Within chars styles other := by
  intro other member
  obtain ⟨piece, inside, settled⟩ := mem_of_mapM gave member
  exact within_settle space (within_parts (within_expandTabs space within) _ piece inside) settled

/-- The lines of a text have no characters but its own and spaces, and no styles but its own. -/
theorem within_lines (space : chars ' ') (within : text.Within chars styles)
    (gave : Paragraph.lines limit text = .ok lines) : ∀ line ∈ lines, Within chars styles line := by
  intro line member
  obtain ⟨groups, broke, rfl⟩ := map_eq_ok.mp gave
  obtain ⟨group, inside, member⟩ := List.mem_flatten.mp member
  obtain ⟨whole, among, gave⟩ := mem_of_mapM broke inside
  exact within_broken space (StyledText.within_lines within whole among) gave line member

private theorem joiner_of_settle {error : Cells.CutError}
    (failed : settle limit line = .error error) :
    Cells.joiner ∈ line.plain := by
  have joined := joiner_of_truncate failed
  rw [plain_withPlain] at joined
  exact List.mem_of_mem_take joined

private theorem joiner_of_lines {error : Cells.CutError}
    (failed : Paragraph.lines limit text = .error error) :
    Cells.joiner ∈ text.plain := by
  refine Decidable.byContradiction fun noJoiner => ?_
  have space : ' ' ≠ Cells.joiner := by decide
  rw [Paragraph.lines, map_eq_error] at failed
  obtain ⟨line, inside, failed⟩ := error_of_mapM failed
  obtain ⟨piece, among, failed⟩ := error_of_mapM failed
  have free := StyledText.within_lines (within_free noJoiner) line inside
  have expanded := within_expandTabs space free
  exact (within_parts expanded _ piece among).plain _ (joiner_of_settle failed) rfl

end Paragraph

namespace Screen.Print

variable {text : StyledText} {fault : Fault}

private theorem fault_ofLines {lines : List StyledText}
    (failed : (ofLines lines).fault = some fault) :
    ∃ error, fault = .cut error ∧ ∃ line ∈ lines, line.crop width = .error error := by
  induction lines with
  | nil => cases failed
  | cons line rest ih =>
      rw [ofLines] at failed
      split at failed
      · rename_i error cropped
        exact ⟨error, (Option.some.inj failed).symm, line, List.mem_cons_self, cropped⟩
      · obtain ⟨error, same, other, inside, cropped⟩ := ih failed
        exact ⟨error, same, other, List.mem_cons_of_mem line inside, cropped⟩

/-- A text whose styles have no numbers that are wrong reaches the screen, unless it has a joiner. -/
theorem fault_ofText (styled : ∀ stretch ∈ text.stretches, Style.numberError? stretch.style = none)
    (failed : (ofText text).fault = some fault) :
    (∃ error, fault = .cut error) ∧ Cells.joiner ∈ text.plain := by
  rw [ofText] at failed
  split at failed
  · rename_i error uncut
    exact ⟨⟨error, (Option.some.inj failed).symm⟩, Paragraph.joiner_of_lines uncut⟩
  · rename_i lines laid
    have known : (lines.flatMap fun line => line.stretches.map Stretch.style).findSome?
        Style.numberError? = none := by
      have within : text.Within (fun _ => True) (Style.numberError? · = none) :=
        ⟨fun _ _ => trivial, styled⟩
      refine List.findSome?_eq_none_iff.mpr fun style member => ?_
      obtain ⟨line, inside, member⟩ := List.mem_flatMap.mp member
      obtain ⟨stretch, among, rfl⟩ := List.mem_map.mp member
      exact (Paragraph.within_lines trivial within laid line inside).stretches stretch among
    simp only [known] at failed
    obtain ⟨error, same, line, inside, cropped⟩ := fault_ofLines failed
    refine ⟨⟨error, same⟩, Decidable.byContradiction fun noJoiner => ?_⟩
    have space : ' ' ≠ Cells.joiner := by decide
    have free := Paragraph.within_lines space (StyledText.within_free noJoiner) laid line inside
    exact free.plain _ (StyledText.joiner_of_crop cropped) rfl

end Screen.Print
end ModelViews
