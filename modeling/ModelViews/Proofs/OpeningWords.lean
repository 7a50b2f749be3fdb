import ModelViews.Proofs.Layout

namespace ModelViews

open Paragraph

def spaced (words : List (List Char)) : List Char :=
  words.flatMap (· ++ [' '])

structure AreOpening (limit : Nat) (words : List (List Char)) : Prop where
  ink : ∀ word ∈ words, word ≠ [] ∧ ∀ c ∈ word, isInk c = true
  letters : Cells.AreLetters (spaced words)
  fit : (spaced words).length ≤ limit

private theorem areOpening_iff {limit : Nat} {words : List (List Char)} :
    AreOpening limit words ↔
      (words.all fun word => !word.isEmpty && word.all isInk) = true ∧
        Cells.AreLetters (spaced words) ∧ (spaced words).length ≤ limit := by
  have inked : (words.all fun word => !word.isEmpty && word.all isInk) = true ↔
      ∀ word ∈ words, word ≠ [] ∧ ∀ c ∈ word, isInk c = true := by
    simp [List.all_eq_true]
  rw [inked]
  exact ⟨fun opening => ⟨opening.ink, opening.letters, opening.fit⟩,
    fun ⟨ink, letters, fit⟩ => ⟨ink, letters, fit⟩⟩

instance (limit : Nat) (words : List (List Char)) : Decidable (AreOpening limit words) :=
  decidable_of_iff _ areOpening_iff.symm

section Letters

variable {limit used : Nat} {label shown : List Char}

private theorem prefix_cropFrom {segments : List (List Char)} (letters : Cells.AreLetters label)
    (fits : used + label.length ≤ limit) (begins : label <+: segments.flatten)
    (cropped : StyledText.cropFrom limit used segments = .ok shown) : label <+: shown := by
  induction segments generalizing label used shown with
  | nil =>
      rw [List.prefix_nil.mp begins]
      exact List.nil_prefix
  | cons segment rest ih =>
      rw [StyledText.cropFrom] at cropped
      rw [List.flatten_cons] at begins
      have split : label <+: segment ∨ ∃ more, label = segment ++ more ∧ more <+: rest.flatten := by
        rcases List.prefix_or_prefix_of_prefix begins (List.prefix_append segment _) with here | past
        · exact .inl here
        · obtain ⟨more, rfl⟩ := past
          exact .inr ⟨more, rfl, (List.prefix_append_right_inj segment).mp begins⟩
      split at cropped
      · obtain ⟨after, later, same⟩ := bind_eq_ok.mp cropped
        rw [← Except.ok.inj same]
        rcases split with here | ⟨more, rfl, past⟩
        · exact here.trans (List.prefix_append segment after)
        · obtain ⟨first, others⟩ := List.forall_mem_append.mp letters
          refine (List.prefix_append_right_inj segment).mpr (ih others ?_ past later)
          rw [Cells.width_letters first]
          rwa [List.length_append, ← Nat.add_assoc] at fits
      · rename_i reached
        rcases split with here | ⟨more, rfl, past⟩
        · exact Cells.prefix_fit letters (by omega) here cropped
        · obtain ⟨first, others⟩ := List.forall_mem_append.mp letters
          rw [List.length_append] at fits
          rw [Cells.width_letters first] at reached
          have none : more = [] := List.eq_nil_of_length_eq_zero (by omega)
          rw [none, List.append_nil]
          exact Cells.prefix_fit first (by omega) (List.prefix_refl segment) cropped

private theorem prefix_crop {line : StyledText} (letters : Cells.AreLetters label)
    (fits : label.length ≤ limit) (begins : label <+: line.plain)
    (cropped : line.crop limit = .ok shown) : label <+: shown := by
  rw [StyledText.crop] at cropped
  split at cropped
  · refine prefix_cropFrom letters (by omega) ?_ cropped
    rwa [StyledText.segments_flatten]
  · rwa [← Except.ok.inj cropped]

private theorem prefix_settle {line settled : StyledText} (letters : Cells.AreLetters label)
    (fits : label.length ≤ limit) (begins : label <+: line.plain)
    (gave : settle limit line = .ok settled) : label <+: settled.plain := by
  have long : label.length ≤ line.plain.length := begins.length_le
  have kept : label <+: line.plain.take (line.plain.length -
      min (line.plain.reverse.takeWhile Text.isBlank).length (line.plain.length - limit)) :=
    List.prefix_take_iff.mpr ⟨begins, by omega⟩
  rw [settle, StyledText.truncate] at gave
  split at gave
  · obtain ⟨fitted, cut, same⟩ := bind_eq_ok.mp gave
    rw [← Except.ok.inj same, StyledText.plain_withPlain]
    rw [StyledText.plain_withPlain] at cut
    exact Cells.prefix_fit letters fits kept cut
  · rw [← Except.ok.inj gave, StyledText.plain_withPlain]
    exact kept

private theorem prefix_splitOn {mark : Char} {text : List Char} (free : mark ∉ label)
    (begins : label <+: text) : ∃ first others, text.splitOn mark = first :: others ∧ label <+: first := by
  obtain ⟨rest, rfl⟩ := begins
  induction label with
  | nil =>
      obtain ⟨first, others, split⟩ := List.exists_cons_of_ne_nil (List.splitOn_ne_nil mark rest)
      exact ⟨first, others, split, List.nil_prefix⟩
  | cons c label ih =>
      obtain ⟨first, others, split, begins⟩ := ih (List.not_mem_of_not_mem_cons free)
      refine ⟨c :: first, others, ?_, List.cons_prefix_cons.mpr ⟨rfl, begins⟩⟩
      have other : c ≠ mark := (List.ne_of_not_mem_cons free).symm
      rw [List.cons_append, List.splitOn_cons_eq_if_modifyHead, split,
        if_neg (by simpa using other), List.modifyHead_cons]

private theorem prefix_lines {text : StyledText} (free : '\n' ∉ label)
    (begins : label <+: text.plain) :
    ∃ first others, text.lines = first :: others ∧ label <+: first.plain := by
  rw [StyledText.lines]
  split
  · obtain ⟨first, others, split, begins⟩ := prefix_splitOn free begins
    rw [split]
    exact ⟨_, _, rfl, begins⟩
  · exact ⟨text, [], rfl, begins⟩

private theorem prefix_parts {text : StyledText} {lengths : List Nat}
    (begins : label <+: text.plain)
    (long : ∀ length, lengths.head? = some length → label.length ≤ length) :
    ∃ first others, text.parts lengths = first :: others ∧ label <+: first.plain := by
  cases lengths with
  | nil => exact ⟨text, [], rfl, begins⟩
  | cons length lengths =>
      exact ⟨_, _, rfl, List.prefix_take_iff.mpr ⟨begins, long length rfl⟩⟩

private theorem partsFrom_ne_nil (stretches : List Stretch) (start : Nat) (lengths : List Nat)
    (plain : List Char) : StyledText.partsFrom stretches start lengths plain ≠ [] := by
  cases lengths <;> exact List.cons_ne_nil _ _

private theorem prefix_expandTabs {line : StyledText} (free : '\t' ∉ label)
    (begins : label <+: line.plain) :
    label <+: line.expandTabs.plain := by
  obtain ⟨first, others, split, start⟩ := prefix_splitOn free begins
  have joined : ['\t'].intercalate (line.plain.splitOn '\t') = line.plain :=
    List.intercalate_splitOn '\t'
  rw [StyledText.expandTabs, split]
  rw [split] at joined
  cases others with
  | nil => exact begins
  | cons next others =>
      rw [List.intercalate_cons_cons] at joined
      let lengths := (next :: others).dropLast.map (·.length + 1)
      have parted : line.parts ((first :: next :: others).dropLast.map (·.length + 1)) =
          StyledText.part line.stretches 0 (line.plain.take (first.length + 1)) ::
            StyledText.partsFrom line.stretches (0 + (first.length + 1)) lengths
              (line.plain.drop (first.length + 1)) := rfl
      obtain ⟨second, rest, tail⟩ := List.exists_cons_of_ne_nil
        (partsFrom_ne_nil line.stretches (0 + (first.length + 1)) lengths
          (line.plain.drop (first.length + 1)))
      have head : (line.plain.take (first.length + 1)).dropLast = first := by
        have long : (first ++ ['\t']).length = first.length + 1 := List.length_append
        rw [← joined, List.take_left' long, List.dropLast_concat]
      rw [parted, tail]
      change label <+: (line.plain.take (first.length + 1)).dropLast ++ [' '] ++ _ ++ _
      rw [head, List.append_assoc, List.append_assoc]
      exact start.trans (List.prefix_append first _)

end Letters

private theorem words_cons {word tail : List Char} (some : word ≠ [])
    (ink : ∀ c ∈ word, isInk c = true) :
    words (word ++ ' ' :: tail) =
      (word ++ ' ' :: tail.takeWhile Text.isBlank) :: words (tail.dropWhile Text.isBlank) := by
  obtain ⟨c, rest, rfl⟩ := List.exists_cons_of_ne_nil some
  obtain ⟨head, others⟩ := List.forall_mem_cons.mp ink
  have solid : ¬ Text.isBlank c = true := by simpa [isInk] using head
  have blank : Text.isBlank ' ' = true := by decide +kernel
  have ends : isInk ' ' = false := by simp [isInk, blank]
  have start : (c :: (rest ++ ' ' :: tail)).dropWhile Text.isBlank = c :: (rest ++ ' ' :: tail) :=
    List.dropWhile_cons_of_neg solid
  rw [List.cons_append, words]
  split
  · rename_i none
    rw [start] at none
    cases none
  · rename_i first others' same
    rw [start] at same
    obtain ⟨rfl, rfl⟩ := List.cons.inj same
    simp [List.takeWhile_cons_of_neg solid, List.takeWhile_append_of_pos others,
      List.dropWhile_append_of_pos others, ends, blank]

private theorem trimEnd_word {word blanks : List Char} (ink : ∀ c ∈ word, isInk c = true)
    (blank : ∀ c ∈ blanks, Text.isBlank c = true) : Text.trimEnd (word ++ blanks) = word := by
  have stop : word.reverse.dropWhile Text.isBlank = word.reverse := by
    refine Text.dropWhile_of_head fun c last => ?_
    have solid := ink c (List.mem_reverse.mp (List.mem_of_mem_head? last))
    simpa [isInk] using solid
  rw [Text.trimEnd, List.reverse_append,
    List.dropWhile_append_of_pos fun c member => blank c (List.mem_reverse.mp member), stop,
    List.reverse_reverse]

section Filling

variable {limit used : Nat} {line : List Char}

private theorem prefix_fill (begun : line ≠ []) (used : Nat) (words : List (List Char)) :
    ∃ first others, fill limit line used words = first :: others ∧ line <+: first := by
  induction words generalizing line used with
  | nil => exact ⟨line, [], rfl, List.prefix_refl line⟩
  | cons word rest ih =>
      have filled : line.isEmpty = false := List.isEmpty_eq_false_iff.mpr begun
      simp only [fill, filled, Bool.false_eq_true, if_false]
      split
      · obtain ⟨first, others, same, begins⟩ :=
          ih (List.append_ne_nil_of_left_ne_nil begun word) (used + Cells.width word)
        exact ⟨first, others, same, (List.prefix_append line word).trans begins⟩
      · split
        · exact ⟨line, _, rfl, List.prefix_refl line⟩
        · exact ⟨line, _, rfl, List.prefix_refl line⟩

private theorem prefix_fill_words {opening : List (List Char)} (some : opening ≠ [])
    (ink : ∀ word ∈ opening, word ≠ [] ∧ ∀ c ∈ word, isInk c = true)
    (letters : Cells.AreLetters (spaced opening)) (fits : used + (spaced opening).length ≤ limit)
    (line rest : List Char) :
    ∃ first others, fill limit line used (words (spaced opening ++ rest)) = first :: others ∧
      line ++ spaced opening <+: first := by
  induction opening generalizing line used with
  | nil => exact absurd rfl some
  | cons word opening ih =>
      obtain ⟨⟨filled, solid⟩, others⟩ := List.forall_mem_cons.mp ink
      have blank : Text.isBlank ' ' = true := by decide +kernel
      have apart : spaced (word :: opening) = word ++ ' ' :: spaced opening := by simp [spaced]
      rw [apart] at letters fits ⊢
      rw [List.length_append, List.length_cons] at fits
      obtain ⟨plain, later⟩ := List.forall_mem_append.mp letters
      have room : used + Cells.width word ≤ limit := by
        rw [Cells.width_letters plain]
        omega
      have blanks (tail : List Char) :
          ∀ c ∈ ' ' :: tail.takeWhile Text.isBlank, Text.isBlank c = true :=
        List.forall_mem_cons.mpr ⟨blank, fun c member => List.mem_takeWhile_imp member⟩
      rw [List.append_assoc, List.cons_append, words_cons filled solid, fill,
        trimEnd_word solid (blanks _), if_pos room]
      cases opening with
      | nil =>
          have begun : line ++ (word ++ ' ' :: rest.takeWhile Text.isBlank) ≠ [] := by simp
          obtain ⟨first, others, same, begins⟩ := prefix_fill begun _ _
          refine ⟨first, others, same, List.IsPrefix.trans ?_ begins⟩
          exact ⟨rest.takeWhile Text.isBlank, by simp [spaced]⟩
      | cons next opening =>
          obtain ⟨⟨more, solid'⟩, _⟩ := List.forall_mem_cons.mp others
          obtain ⟨c, cs, rfl⟩ := List.exists_cons_of_ne_nil more
          have inked : Text.isBlank c = false := by simpa [isInk] using solid' c List.mem_cons_self
          have none : (spaced ((c :: cs) :: opening) ++ rest).takeWhile Text.isBlank = [] := by
            simp [spaced, inked]
          have all : (spaced ((c :: cs) :: opening) ++ rest).dropWhile Text.isBlank =
              spaced ((c :: cs) :: opening) ++ rest := by
            simp [spaced, inked]
          obtain ⟨space, letters⟩ := List.forall_mem_cons.mp later
          have wide : Cells.width (word ++ [' ']) = word.length + 1 := by
            rw [Cells.width_letters (List.forall_mem_append.mpr
              ⟨plain, List.forall_mem_singleton.mpr space⟩), List.length_append]
            rfl
          have fitted : used + (word.length + 1) + (spaced ((c :: cs) :: opening)).length ≤ limit := by
            omega
          obtain ⟨first, others, same, begins⟩ := ih (List.cons_ne_nil _ _) others letters fitted _
          rw [none, all, wide]
          refine ⟨first, others, same, ?_⟩
          rwa [List.append_assoc, List.append_assoc] at begins

end Filling

section Opening

variable {limit : Nat} {opening : List (List Char)} {line text : StyledText}

theorem AreOpening.not_mem (isOpening : AreOpening limit opening) {c : Char} (noSpace : c ≠ ' ')
    (blank : isInk c = false) : c ∉ spaced opening := by
  intro member
  obtain ⟨word, inside, member⟩ := List.mem_flatMap.mp member
  rcases List.mem_append.mp member with letter | space
  · rw [(isOpening.ink word inside).2 c letter] at blank
    cases blank
  · exact noSpace (List.mem_singleton.mp space)

private theorem prefix_broken (isOpening : AreOpening limit opening) (some : opening ≠ [])
    (begins : spaced opening <+: line.plain) {lines : List StyledText}
    (broke : broken limit line = .ok lines) :
    ∃ first others, lines = first :: others ∧ spaced opening <+: first.plain := by
  have free : '\t' ∉ spaced opening := isOpening.not_mem (by decide) (by decide +kernel)
  have expanded := prefix_expandTabs free begins
  have room : 0 + (spaced opening).length ≤ limit := by
    have fit := isOpening.fit
    omega
  have long (length : Nat) (head : ((fill limit [] 0 (words line.expandTabs.plain)).dropLast.map
      List.length).head? = Option.some length) : (spaced opening).length ≤ length := by
    obtain ⟨rest, plain⟩ := expanded
    obtain ⟨first, others, filled, start⟩ :=
      prefix_fill_words some isOpening.ink isOpening.letters room [] rest
    rw [← plain, filled] at head
    cases others with
    | nil => cases head
    | cons next others =>
        rw [← Option.some.inj head]
        exact start.length_le
  obtain ⟨first, others, parted, start⟩ := prefix_parts expanded long
  rw [broken, parted] at broke
  obtain ⟨settled, rest, gave, _, rfl⟩ := mapM_cons_eq_ok.mp broke
  exact ⟨settled, rest, rfl, prefix_settle isOpening.letters isOpening.fit start gave⟩

private theorem prefix_paragraph (isOpening : AreOpening limit opening) (some : opening ≠ [])
    (begins : spaced opening <+: text.plain) {lines : List StyledText}
    (laid : Paragraph.lines limit text = .ok lines) :
    ∃ first others, lines = first :: others ∧ spaced opening <+: first.plain := by
  have free : '\n' ∉ spaced opening := isOpening.not_mem (by decide) (by decide +kernel)
  obtain ⟨line, rest, split, start⟩ := prefix_lines free begins
  obtain ⟨groups, broke, rfl⟩ := map_eq_ok.mp laid
  rw [split] at broke
  obtain ⟨group, groups, gave, _, rfl⟩ := mapM_cons_eq_ok.mp broke
  obtain ⟨first, others, rfl, start⟩ := prefix_broken isOpening some start gave
  exact ⟨first, others ++ groups.flatten, rfl, start⟩

theorem prefix_ofText (isOpening : AreOpening Screen.width opening) (some : opening ≠ [])
    (begins : spaced opening <+: text.plain) (shown : (Screen.Print.ofText text).fault = none) :
    spaced opening <+: (Screen.Print.ofText text).text.toList := by
  rw [Screen.Print.ofText] at shown ⊢
  split at shown
  · cases shown
  · rename_i lines laid
    obtain ⟨first, others, rfl, start⟩ := prefix_paragraph isOpening some begins laid
    simp only at shown ⊢
    split at shown
    · cases shown
    · rw [Screen.Print.ofLines] at shown ⊢
      split at shown
      · cases shown
      · rename_i cropped
        have kept := prefix_crop isOpening.letters isOpening.fit start cropped
        simp only [String.toList_append, String.toList_ofList, List.append_assoc]
        exact kept.trans (List.prefix_append _ _)

end Opening
end ModelViews
