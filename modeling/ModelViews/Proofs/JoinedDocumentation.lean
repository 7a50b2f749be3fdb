import ModelViews.Proofs.LineGrammar

namespace ModelViews.Documentation

/-! Two documentations, one below the other. -/

section Joined

variable {first second : String}

private theorem linesOf_joined :
    linesOf (some (first ++ "\n" ++ second)) = linesOf (some first) ++ linesOf (some second) :=
  Text.pieces_append '\n' first second

private theorem firstFault_joined :
    firstFault? (some (first ++ "\n" ++ second)) =
      (firstFault? (some first)).or (firstFault? (some second)) := by
  rw [firstFault?, linesOf_joined, List.findSome?_append]
  rfl

private theorem annotationsOf_joined :
    annotationsOf (some (first ++ "\n" ++ second)) =
      annotationsOf (some first) ++ annotationsOf (some second) := by
  rw [annotationsOf, linesOf_joined, List.filterMap_append]
  rfl

private theorem read_joined_error {error : AnnotationError} :
    read (some (first ++ "\n" ++ second)) = .error error ↔
      read (some first) = .error error ∨
        (∃ doc, read (some first) = .ok doc) ∧ read (some second) = .error error := by
  rw [← errorOf_eq_some, read_fault, firstFault_joined, Option.or_eq_some_iff, ← read_fault,
    ← read_fault, errorOf_eq_some, errorOf_eq_none, errorOf_eq_some]

end Joined

/-! What is left of a documentation. -/

section Prose

variable {text line : String}

private theorem alias_not_in_prose {kind : DirectiveKind} {name : String}
    (isAlias : name ∈ kind.aliases)
    (text : String) : ¬ name.toList <:+: (prose text).toList := by
  intro stands
  let kept := (Text.lines text).filter fun line => (DirectiveKind.ofLine? line).isNone
  have within : (prose text).toList <:+: ['\n'].intercalate (kept.map String.toList) := by
    have joined : ("\n".intercalate kept).toList = ['\n'].intercalate (kept.map String.toList) :=
      String.toList_intercalate
    rw [← joined, prose, Text.toList_trimmed]
    exact Text.infix_trim _
  have solid : Text.IsSolid name.toList := kind.aliases_solid name isAlias
  -- an alias has no line feed in it, so that it stands on one of the lines that were kept
  have oneLine : '\n' ∉ name.toList := solid.not_mem (by decide)
  obtain ⟨part, among, onLine⟩ :=
    Text.infix_of_intercalate oneLine solid.nonempty (stands.trans within)
  obtain ⟨line, member, rfl⟩ := List.mem_map.mp among
  have unnamed : (DirectiveKind.ofLine? line).isNone := (List.mem_filter.mp member).2
  have named : (DirectiveKind.ofLine? line).isSome :=
    DirectiveKind.ofLine_isSome.mpr ⟨kind, kind.mem_all, name, isAlias, onLine⟩
  rw [Option.isNone_iff_eq_none.mp unnamed] at named
  cases named

private theorem not_isDirective_prose (inProse : line ∈ Text.lines (prose text)) :
    ¬ IsDirective line := by
  rintro ⟨kind, _, name, isAlias, stands⟩
  exact alias_not_in_prose isAlias text (stands.trans (Text.infix_of_mem_pieces inProse))

private theorem prose_eq (free : ∀ line ∈ Text.lines text, ¬ IsDirective line) :
    prose text = Text.trimmed text := by
  have all : (Text.lines text).filter (fun line => (DirectiveKind.ofLine? line).isNone) =
      Text.lines text := by
    apply List.filter_eq_self.mpr
    intro line member
    have unnamed := free line member
    rw [isDirective_iff, ← Option.isSome_iff_exists] at unnamed
    simpa using unnamed
  calc
    prose text = Text.trimmed ("\n".intercalate (Text.lines text)) :=
      congrArg (fun lines => Text.trimmed ("\n".intercalate lines)) all
    _ = Text.trimmed text := by rw [Text.intercalate_lines]

private theorem trimmed_prose (text : String) : Text.trimmed (prose text) = prose text :=
  Text.trimmed_trimmed _

private theorem free_of_prose (whole : prose text = Text.trimmed text) :
    ∀ line ∈ Text.lines text, ¬ IsDirective line := by
  rintro line member ⟨kind, _, name, isAlias, stands⟩
  have inText : name.toList <:+: text.toList := stands.trans (Text.infix_of_mem_pieces member)
  have inTrimmed : name.toList <:+: (Text.trimmed text).toList := by
    rw [← Text.occursIn_iff, Text.occursIn_trimmed (kind.aliases_solid name isAlias), Text.occursIn_iff]
    exact inText
  rw [← whole] at inTrimmed
  exact alias_not_in_prose isAlias text inTrimmed

private theorem annotations_eq_nil_iff {doc : Documentation} (gave : read (some text) = .ok doc) :
    doc.annotations = [] ↔ ∀ line ∈ Text.lines text, ¬ IsDirective line := by
  rw [read_annotations gave, annotationsOf, List.filterMap_eq_nil_iff]
  apply forall₂_congr
  intro line member
  constructor
  · intro none directive
    obtain ⟨note, made⟩ := (lineFault_eq_none directive).mp (sound_of_read gave line member)
    rw [none] at made
    cases made
  · exact fun free => (nothing_of_prose free).2

/-- Documentation without a directive line is read, and all of it describes. -/
theorem read_of_free (free : ∀ line ∈ Text.lines text, ¬ IsDirective line) :
    read (some text) = .ok ⟨[], Text.trimmed text⟩ := by
  apply read_eq_ok.mpr
  refine ⟨fun line member => (nothing_of_prose (free line member)).1, ?_, (prose_eq free).symm⟩
  exact (List.filterMap_eq_nil_iff.mpr fun line member =>
    (nothing_of_prose (free line member)).2).symm

end Prose

/-- Documentation is read line by line. Of two documentations, one below the other, the reading ends with
the error of the first, or else with that of the second; where neither has one, the annotations are those
of the first and behind them those of the second. What describes the documented thing, read as
documentation, is read, has no annotations, and describes the same; and a documentation that is read has no
annotations exactly if all of it, trimmed, describes. -/
theorem read_joined_described (first second : String) (text : Option String) :
    (∀ error, read (some (first ++ "\n" ++ second)) = .error error ↔
      read (some first) = .error error ∨
        (∃ doc, read (some first) = .ok doc) ∧ read (some second) = .error error) ∧
    (∀ doc other, read (some first) = .ok doc → read (some second) = .ok other →
      ∃ joined, read (some (first ++ "\n" ++ second)) = .ok joined ∧
        joined.annotations = doc.annotations ++ other.annotations) ∧
    ∀ doc, read text = .ok doc →
      read (some doc.description) = .ok ⟨[], doc.description⟩ ∧
      (doc.annotations = [] ↔ doc.description = Text.trimmed (text.getD "")) := by
  refine ⟨fun error => read_joined_error, ?_, ?_⟩
  · intro doc other gave gaveOther
    have sound : errorOf? (read (some (first ++ "\n" ++ second))) = none := by
      rw [read_fault, firstFault_joined, ← read_fault, ← read_fault, gave, gaveOther]
      rfl
    obtain ⟨joined, gaveJoined⟩ := errorOf_eq_none.mp sound
    refine ⟨joined, gaveJoined, ?_⟩
    rw [read_annotations gaveJoined, read_annotations gave, read_annotations gaveOther]
    exact annotationsOf_joined
  · intro doc gave
    have described : doc.description = prose (text.getD "") := description_of_read gave
    have gaveText : read (some (text.getD "")) = .ok doc := gave
    rw [annotations_eq_nil_iff gaveText, described]
    constructor
    · have again : read (some (prose (text.getD ""))) = .ok ⟨[], Text.trimmed (prose (text.getD ""))⟩ :=
        read_of_free fun _ => not_isDirective_prose
      rwa [trimmed_prose] at again
    · exact ⟨prose_eq, free_of_prose⟩

def shelfNote : String :=
  "Where it stands.\n @prisma-arktype.hide"

/-- Documentation with a text above and one below its directive, and blank lines. -/
def loanNote : String :=
  "\n  who borrowed it\n\n@prisma-arktype.options\x7bnarrow\x7d\n  and when \n"

theorem notes_joined :
    ∃ joined, read (some (shelfNote ++ "\n" ++ loanNote)) = .ok joined ∧
      joined.annotations = [⟨.hidden, none⟩, ⟨.options, some "narrow"⟩] ∧
      read (some joined.description) = .ok ⟨[], joined.description⟩ ∧
      joined.description ≠ Text.trimmed (shelfNote ++ "\n" ++ loanNote) := by
  have shelf : read (some shelfNote) = .ok ⟨[⟨.hidden, none⟩], "Where it stands."⟩ := by
    decide +kernel
  have loan : read (some loanNote) =
      .ok ⟨[⟨.options, some "narrow"⟩], "who borrowed it\n\n  and when"⟩ := by decide +kernel
  obtain ⟨_, both, described⟩ :=
    read_joined_described shelfNote loanNote (some (shelfNote ++ "\n" ++ loanNote))
  obtain ⟨joined, gave, annotations⟩ := both _ _ shelf loan
  obtain ⟨again, whole⟩ := described joined gave
  refine ⟨joined, gave, annotations, again, ?_⟩
  intro all
  rw [whole.mpr all] at annotations
  cases annotations

end ModelViews.Documentation
