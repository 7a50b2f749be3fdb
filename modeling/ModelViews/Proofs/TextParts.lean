import Mathlib.Data.List.Infix
import ModelViews.Proofs.Trimming

namespace ModelViews.Text

variable {mark : Char} {text needle before rest body : List Char}

/-- The pieces of a text at a mark: joined by the mark they are the text, and none of them has the mark
in it. -/
structure Splits (mark : Char) (text : String) (parts : List String) : Prop where
  nonempty : parts ≠ []
  free : ∀ part ∈ parts, mark ∉ part.toList
  joined : (String.singleton mark).intercalate parts = text

private theorem not_mem_of_mem_splitOn {part : List Char} (member : part ∈ text.splitOn mark) :
    mark ∉ part := by
  induction text generalizing part with
  | nil =>
      rw [List.splitOn_nil, List.mem_singleton] at member
      rw [member]
      exact List.not_mem_nil
  | cons c rest ih =>
      obtain ⟨first, others, split⟩ := List.exists_cons_of_ne_nil (List.splitOn_ne_nil mark rest)
      rw [List.splitOn_cons_eq_if_modifyHead, split] at member
      rw [split] at ih
      by_cases here : c = mark
      · rw [if_pos (beq_iff_eq.mpr here)] at member
        rcases List.mem_cons.mp member with rfl | later
        · exact List.not_mem_nil
        · exact ih later
      · rw [if_neg (by simpa using here), List.modifyHead_cons] at member
        rcases List.mem_cons.mp member with rfl | later
        · rw [List.mem_cons, not_or]
          exact ⟨Ne.symm here, ih List.mem_cons_self⟩
        · exact ih (List.mem_cons_of_mem first later)

private theorem infix_of_mem_splitOn {part : List Char} (member : part ∈ text.splitOn mark) :
    part <:+: text := by
  have among : part ∈ (text.splitOn mark).intersperse [mark] := by
    obtain ⟨index, bound, rfl⟩ := List.getElem_of_mem member
    rw [List.getElem_eq_getElem_intersperse_two_mul bound]
    exact List.getElem_mem _
  have joined : [mark].intercalate (text.splitOn mark) = text := List.intercalate_splitOn mark
  rw [← joined]
  exact List.infix_of_mem_flatten among

theorem mem_of_mem_splitOn {part : List Char} {c : Char} (member : part ∈ text.splitOn mark)
    (inside : c ∈ part) : c ∈ text :=
  (infix_of_mem_splitOn member).subset inside

/-- What has no mark in it and stands in a text around the mark stands on one side of it. -/
theorem infix_of_free {after : List Char} (free : mark ∉ needle)
    (stands : needle <:+: before ++ mark :: after) : needle <:+: before ∨ needle <:+: after := by
  rcases List.infix_append_iff.mp stands with inBefore | atMark | ⟨left, right, rfl, ends, begins⟩
  · exact .inl inBefore
  · rcases List.infix_cons_iff.mp atMark with begins | inAfter
    · cases needle with
      | nil => exact .inr (List.nil_infix)
      | cons c rest =>
          obtain ⟨rfl, _⟩ := List.cons_prefix_cons.mp begins
          exact absurd List.mem_cons_self free
    · exact .inr inAfter
  · cases right with
    | nil =>
        rw [List.append_nil]
        exact .inl ends.isInfix
    | cons c rest =>
        obtain ⟨rfl, _⟩ := List.cons_prefix_cons.mp begins
        exact absurd (List.mem_append_right left List.mem_cons_self) free

/-- What has no mark in it and stands in parts that are joined by the mark stands in one of them. -/
theorem infix_of_intercalate {parts : List (List Char)} (free : mark ∉ needle)
    (nonempty : needle ≠ []) (stands : needle <:+: [mark].intercalate parts) :
    ∃ part ∈ parts, needle <:+: part := by
  induction parts with
  | nil => exact absurd (List.infix_nil.mp stands) nonempty
  | cons part parts ih =>
      cases parts with
      | nil => exact ⟨part, List.mem_cons_self, by simpa using stands⟩
      | cons next parts =>
          have split : [mark].intercalate (part :: next :: parts) =
              part ++ mark :: [mark].intercalate (next :: parts) := by
            simp [List.intercalate_cons_cons]
          rw [split] at stands
          rcases infix_of_free free stands with here | later
          · exact ⟨part, List.mem_cons_self, here⟩
          · obtain ⟨other, member, inside⟩ := ih later
            exact ⟨other, List.mem_cons_of_mem part member, inside⟩

theorem splits_iff {text : String} {parts : List String} :
    Splits mark text parts ↔ parts = pieces mark text := by
  constructor
  · intro splits
    have whole : text.toList = [mark].intercalate (parts.map String.toList) := by
      rw [← splits.joined, String.toList_intercalate, String.toList_singleton]
    have free : ∀ part ∈ parts.map String.toList, mark ∉ part := by
      simpa using splits.free
    have back : (String.ofList ∘ String.toList) = id := by
      funext part
      exact String.ofList_toList
    rw [pieces, whole, List.splitOn_intercalate mark free (by simpa using splits.nonempty),
      List.map_map, back, List.map_id]
  · rintro rfl
    refine ⟨?_, ?_, ?_⟩
    · simp [pieces, List.splitOn_ne_nil]
    · intro part member
      obtain ⟨piece, split, rfl⟩ := List.mem_map.mp member
      rw [String.toList_ofList]
      exact not_mem_of_mem_splitOn split
    · have back : (String.toList ∘ String.ofList) = id := by
        funext piece
        exact String.toList_ofList
      rw [← String.toList_inj, String.toList_intercalate, String.toList_singleton, pieces,
        List.map_map, back, List.map_id, List.intercalate_splitOn]

/-- The pieces of two texts with the mark between them are those of the first and those of the
second. -/
theorem pieces_append (mark : Char) (first second : String) :
    pieces mark (first ++ String.singleton mark ++ second) =
      pieces mark first ++ pieces mark second := by
  have split : (first ++ String.singleton mark ++ second).toList =
      first.toList ++ mark :: second.toList := by simp
  rw [pieces, split, List.splitOn_append_cons_self, List.map_append]
  rfl

theorem intercalate_lines (text : String) : "\n".intercalate (lines text) = text :=
  (splits_iff.mpr rfl : Splits '\n' text (lines text)).joined

theorem infix_of_mem_pieces {part text : String} (member : part ∈ pieces mark text) :
    part.toList <:+: text.toList := by
  obtain ⟨piece, split, rfl⟩ := List.mem_map.mp member
  rw [String.toList_ofList]
  exact infix_of_mem_splitOn split

/-- What is left of a text when the blanks at its ends are taken away. -/
structure Trims (text body : List Char) : Prop where
  between : ∃ left right, text = left ++ body ++ right ∧ IsBlankText left ∧ IsBlankText right
  starts : ∀ c, body.head? = some c → isBlank c = false
  ends : ∀ c, body.getLast? = some c → isBlank c = false

private theorem trim_blank_append {left : List Char} (blank : IsBlankText left) :
    trim (left ++ text) = trim text := by
  rw [trim, trim, trimStart, trimStart, List.dropWhile_append_of_pos blank]

theorem dropWhile_of_head {keep : Char → Bool} (head : ∀ c, text.head? = some c → keep c = false) :
    text.dropWhile keep = text := by
  cases text with
  | nil => rfl
  | cons c rest => rw [List.dropWhile_cons_of_neg (by simp [head c rfl])]

private theorem head_dropWhile {keep : Char → Bool} {c : Char}
    (head : (text.dropWhile keep).head? = some c) : keep c = false := by
  have stops := List.head?_dropWhile_not keep text
  rw [head] at stops
  simpa using stops

theorem trims_iff : Trims text body ↔ body = trim text := by
  constructor
  · rintro ⟨⟨left, right, rfl, blankLeft, blankRight⟩, starts, ends⟩
    have start : trimStart body = body := dropWhile_of_head starts
    have stop : body.reverse.dropWhile isBlank = body.reverse :=
      dropWhile_of_head (by simpa using ends)
    rw [List.append_assoc, trim_blank_append blankLeft, trim_append_blank blankRight, trim, start,
      trimEnd, stop, List.reverse_reverse]
  · rintro rfl
    refine ⟨trim_between text, ?_, ?_⟩
    · intro c head
      -- A text that is trimmed at its end begins as it did.
      have begins : trim text <+: trimStart text := by
        have ends := List.dropWhile_suffix isBlank (l := (trimStart text).reverse)
        simpa [trim, trimEnd] using List.reverse_prefix.mpr ends
      obtain ⟨more, same⟩ := begins
      have first : (trimStart text).head? = some c := by
        rw [← same, List.head?_append, head, Option.some_or]
      exact head_dropWhile first
    · intro c last
      rw [trim, trimEnd, List.getLast?_reverse] at last
      exact head_dropWhile last

theorem Trims.again (trims : Trims text body) : Trims body body :=
  ⟨⟨[], [], by simp, List.forall_mem_nil _, List.forall_mem_nil _⟩, trims.starts, trims.ends⟩

theorem infix_trim (text : List Char) : trim text <:+: text := by
  obtain ⟨left, right, same, _, _⟩ := trim_between text
  exact ⟨left, right, same.symm⟩

private theorem trim_trim (text : List Char) : trim (trim text) = trim text := by
  have trims : Trims text (trim text) := trims_iff.mpr rfl
  exact (trims_iff.mp trims.again).symm

theorem trimmed_trimmed (text : String) : trimmed (trimmed text) = trimmed text := by
  rw [trimmed, toList_trimmed, trim_trim]
  rfl

structure First (needle text before rest : List Char) : Prop where
  split : text = before ++ needle ++ rest
  least : ∀ earlier later, text = earlier ++ needle ++ later → before.length ≤ earlier.length

private theorem first_of_after (found : after? needle text = some rest) :
    ∃ before, First needle text before rest := by
  induction text with
  | nil =>
      rw [after?] at found
      cases needle with
      | nil =>
          cases found
          exact ⟨[], rfl, fun _ _ _ => Nat.zero_le _⟩
      | cons _ _ => cases found
  | cons c tail ih =>
      rw [after?] at found
      by_cases begins : needle.isPrefixOf (c :: tail) = true
      · obtain ⟨more, same⟩ := List.isPrefixOf_iff_prefix.mp begins
        rw [if_pos begins, ← same, List.drop_left, Option.some.injEq] at found
        subst found
        exact ⟨[], same.symm, fun _ _ _ => Nat.zero_le _⟩
      · rw [if_neg begins] at found
        obtain ⟨before, split, least⟩ := ih found
        refine ⟨c :: before, by rw [split]; rfl, ?_⟩
        intro earlier later same
        cases earlier with
        | nil =>
            have prefixed : needle <+: c :: tail := ⟨later, same.symm⟩
            exact absurd (List.isPrefixOf_iff_prefix.mpr prefixed) begins
        | cons d earlier =>
            have inner : tail = earlier ++ needle ++ later := (List.cons.inj same).2
            exact Nat.succ_le_succ (least earlier later inner)

private theorem after_isSome : (after? needle text).isSome ↔ needle <:+: text := by
  induction text with
  | nil =>
      rw [after?, List.infix_nil]
      cases needle <;> simp
  | cons c tail ih =>
      rw [after?, List.infix_cons_iff, ← ih, ← List.isPrefixOf_iff_prefix]
      by_cases begins : needle.isPrefixOf (c :: tail) = true
      · simp [begins]
      · simp [begins]

theorem after_eq_some : after? needle text = some rest ↔ ∃ before, First needle text before rest := by
  constructor
  · exact first_of_after
  · rintro ⟨before, first⟩
    have occurs : needle <:+: text := ⟨before, rest, first.split.symm⟩
    obtain ⟨other, found⟩ := Option.isSome_iff_exists.mp (after_isSome.mpr occurs)
    obtain ⟨front, same⟩ := first_of_after found
    have length : before.length = front.length :=
      Nat.le_antisymm (first.least front other same.split) (same.least before rest first.split)
    have both : before ++ (needle ++ rest) = front ++ (needle ++ other) := by
      rw [← List.append_assoc, ← List.append_assoc, ← first.split, ← same.split]
    have tails := (List.append_inj both length).2
    rw [found, List.append_cancel_left tails]

theorem occursIn_iff {name line : String} :
    occursIn name line = true ↔ name.toList <:+: line.toList :=
  after_isSome

private theorem beforeLast_eq_none : beforeLast? mark text = none ↔ mark ∉ text := by
  induction text with
  | nil => simp [beforeLast?]
  | cons c rest ih =>
      rw [beforeLast?, List.mem_cons, not_or, ← ih]
      cases beforeLast? mark rest with
      | some body => simp
      | none => simp [eq_comm]

private theorem last_of_beforeLast (found : beforeLast? mark text = some body) :
    ∃ rest, text = body ++ mark :: rest ∧ mark ∉ rest := by
  induction text generalizing body with
  | nil => cases found
  | cons c tail ih =>
      rw [beforeLast?] at found
      cases later : beforeLast? mark tail with
      | some inner =>
          rw [later, Option.some.injEq] at found
          obtain ⟨rest, split, free⟩ := ih later
          exact ⟨rest, by rw [← found, split]; rfl, free⟩
      | none =>
          rw [later] at found
          by_cases here : c = mark
          · rw [if_pos here, Option.some.injEq] at found
            rw [← found, here]
            exact ⟨tail, rfl, beforeLast_eq_none.mp later⟩
          · rw [if_neg here] at found
            cases found

theorem beforeLast_eq_some :
    beforeLast? mark text = some body ↔ ∃ rest, text = body ++ mark :: rest ∧ mark ∉ rest := by
  constructor
  · exact last_of_beforeLast
  · rintro ⟨rest, rfl, free⟩
    induction body with
    | nil => rw [List.nil_append, beforeLast?, beforeLast_eq_none.mpr free, if_pos rfl]
    | cons c body ih => rw [List.cons_append, beforeLast?, ih]

private theorem first_of_cutAt (found : cutAt? mark text = some (before, rest)) :
    text = before ++ mark :: rest ∧ mark ∉ before := by
  induction text generalizing before with
  | nil => cases found
  | cons c tail ih =>
      rw [cutAt?] at found
      by_cases here : c = mark
      · rw [if_pos here, Option.some.injEq, Prod.mk.injEq] at found
        rw [← found.1, ← found.2, here]
        exact ⟨rfl, List.not_mem_nil⟩
      · rw [if_neg here] at found
        obtain ⟨⟨front, behind⟩, later, same⟩ := Option.map_eq_some_iff.mp found
        obtain ⟨rfl, rfl⟩ := Prod.mk.inj same
        obtain ⟨split, free⟩ := ih later
        refine ⟨by rw [split]; rfl, ?_⟩
        rw [List.mem_cons, not_or]
        exact ⟨Ne.symm here, free⟩

/-- A cut gives what is before the first occurrence of a mark, and what is behind it. -/
theorem cutAt_eq_some :
    cutAt? mark text = some (before, rest) ↔ text = before ++ mark :: rest ∧ mark ∉ before := by
  constructor
  · exact first_of_cutAt
  · rintro ⟨rfl, free⟩
    induction before with
    | nil => rw [List.nil_append, cutAt?, if_pos rfl]
    | cons c before ih =>
        rw [List.mem_cons, not_or] at free
        rw [List.cons_append, cutAt?, if_neg (Ne.symm free.1), ih free.2]
        rfl

end ModelViews.Text
