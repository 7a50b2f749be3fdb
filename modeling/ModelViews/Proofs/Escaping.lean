import Mathlib.Data.List.TakeWhile
import ModelViews.Console.Markup
import ModelViews.Proofs.Outcomes
/-!
Text that is kept from having tags. Escaping puts an odd number of backslashes before every tag of a
text and makes no tag that was not there, so that what was escaped is shown as text: it opens no style
and ends none, whatever it holds.
-/
namespace ModelViews

namespace Style

private theorem lowerCase_red : lowerCase "red" = "red" := by decide +kernel

private theorem words_red : Text.words "red" = ["red"] := by decide +kernel

private theorem ofName_red : Effect.ofName? "red" = none := by decide +kernel

private theorem read_single (style : Style) (word : String) :
    style.read [word] =
      match Effect.ofName? (lowerCase word) with
      | some effect => .ok (style.withEffect effect true)
      | none => (colorName (lowerCase word)).map fun color => { style with color := some color } := by
  have done (other : Style) : other.read [] = .ok other := by unfold read; rfl
  unfold read
  generalize lowerCase word = small
  simp only [done]
  cases Effect.ofName? small with
  | some effect => rfl
  | none => cases colorName small <;> rfl

private theorem colorName_single {word : String}
    (noArgument : Color.argument? "rgb".toList (lowerCase word).toList = none) :
    colorName word = .ok (lowerCase word) ∨ colorName word = .error .unknown := by
  have known : ∃ known, Color.isColor (lowerCase word).toList = .ok known := by
    rewrite [Color.isColor, noArgument]
    exact ⟨_, rfl⟩
  obtain ⟨known, isColor⟩ := known
  rw [colorName, isColor]
  cases known
  · exact .inr rfl
  · exact .inl rfl

private theorem read_red :
    read {} ["red"] = .ok { color := some "red" } ∨ read {} ["red"] = .error .unknown := by
  have noArgument : Color.argument? "rgb".toList (lowerCase "red").toList = none := by decide +kernel
  rewrite [read_single, lowerCase_red, ofName_red]
  rcases colorName_single noArgument with named | named
  · rewrite [named, lowerCase_red]
    exact .inl rfl
  · rewrite [named]
    exact .inr rfl

private theorem normalName_red : normalName "red".toList = .ok "red" := by
  rewrite [normalName, String.ofList_toList, words_red]
  rcases read_red with read | read
  · rewrite [if_neg (by decide), read]
    exact congrArg Except.ok (by decide +kernel)
  · rewrite [if_neg (by decide), read]
    exact congrArg Except.ok (by decide +kernel)

theorem numberError_red : numberError? "red" = none := by
  rewrite [numberError?, words_red]
  rcases read_red with read | read
  · rewrite [read]
    rfl
  · rewrite [read]
    rfl

end Style

namespace Markup

def IsBody (body : List Char) : Prop :=
  ∃ c rest, body = c :: rest ∧ opensTag c = true ∧ ∀ other ∈ rest, inTag other = true

variable {text after body : List Char} {piece : Piece} {backslashes : Nat} {c : Char}

private theorem inTag_of_opens (opens : opensTag c = true) : inTag c = true := by
  by_cases opening : c = '['
  · rw [opening] at opens
    exact absurd opens (by decide)
  · by_cases closing : c = ']'
    · rw [closing] at opens
      exact absurd opens (by decide)
    · simp [inTag, opening, closing]

theorem IsBody.inTag (isBody : IsBody body) : ∀ c ∈ body, Markup.inTag c = true := by
  obtain ⟨c, rest, rfl, opens, plain⟩ := isBody
  exact List.forall_mem_cons.mpr ⟨inTag_of_opens opens, plain⟩

private theorem tagBody_eq_some :
    tagBody? text = some (body, after) ↔ IsBody body ∧ text = body ++ ']' :: after := by
  constructor
  · intro found
    cases text with
    | nil => simp [tagBody?] at found
    | cons c rest =>
        rw [tagBody?] at found
        split at found
        · rename_i opens
          split at found
          · rename_i after' closed
            simp only [Option.some.injEq, Prod.mk.injEq] at found
            obtain ⟨rfl, rfl⟩ := found
            refine ⟨⟨c, _, rfl, opens, fun other member => List.mem_takeWhile_imp member⟩, ?_⟩
            rw [List.cons_append, ← closed, List.takeWhile_append_dropWhile]
          · cases found
        · cases found
  · rintro ⟨⟨c, rest, rfl, opens, plain⟩, rfl⟩
    rw [List.cons_append, tagBody?, if_pos opens, List.dropWhile_append_of_pos plain,
      List.takeWhile_append_of_pos plain]
    simp [Markup.inTag]

private theorem bracketed_append (body after : List Char) :
    bracketed body ++ after = '[' :: (body ++ ']' :: after) := by
  rw [bracketed, List.cons_append, List.cons_append, List.append_assoc, List.singleton_append]

private theorem tag_eq_some :
    tag? text = some (piece, after) ↔
      ∃ backslashes body, IsBody body ∧ piece = .tag backslashes body ∧
        text = List.replicate backslashes '\\' ++ (bracketed body ++ after) := by
  constructor
  · intro found
    rw [tag?] at found
    split at found
    · rename_i rest opened
      simp only [Option.map_eq_some_iff, Prod.mk.injEq, Prod.exists] at found
      obtain ⟨body, _, read, rfl, rfl⟩ := found
      obtain ⟨isBody, rfl⟩ := tagBody_eq_some.mp read
      have marks : text.takeWhile isBackslash =
          List.replicate (text.takeWhile isBackslash).length '\\' :=
        List.eq_replicate_of_mem fun c member => by
          simpa [isBackslash] using List.mem_takeWhile_imp member
      refine ⟨_, body, isBody, rfl, ?_⟩
      rw [← marks, bracketed_append, ← opened, List.takeWhile_append_dropWhile]
    · cases found
  · rintro ⟨backslashes, body, isBody, rfl, rfl⟩
    have marks : ∀ c ∈ List.replicate backslashes '\\', isBackslash c = true := fun c member => by
      rw [List.eq_of_mem_replicate member]
      rfl
    have read : tagBody? (body ++ ']' :: after) = some (body, after) :=
      tagBody_eq_some.mpr ⟨isBody, rfl⟩
    rw [tag?, List.dropWhile_append_of_pos marks, List.takeWhile_append_of_pos marks,
      bracketed_append]
    simp [isBackslash, read]

private theorem tag_marked :
    tag? ('\\' :: text) = some (.tag (backslashes + 1) body, after) ↔
      tag? text = some (.tag backslashes body, after) := by
  rw [tag_eq_some, tag_eq_some]
  constructor
  · rintro ⟨_, _, isBody, same, split⟩
    cases same
    exact ⟨backslashes, body, isBody, rfl, (List.cons.inj split).2⟩
  · rintro ⟨_, _, isBody, same, rfl⟩
    cases same
    exact ⟨backslashes + 1, body, isBody, rfl, rfl⟩

private theorem untagged_behind (untagged : tag? ('\\' :: text) = none) : tag? text = none := by
  rw [Option.eq_none_iff_forall_ne_some]
  rintro ⟨piece, after⟩ found
  obtain ⟨backslashes, body, _, rfl, _⟩ := tag_eq_some.mp found
  rw [tag_marked.mpr found] at untagged
  cases untagged

private theorem tag_of_plain (noMark : c ≠ '\\')
    (noBracket : c ≠ '[') : tag? (c :: text) = none := by
  rw [tag?, List.dropWhile_cons_of_neg (by simpa [isBackslash] using noMark)]
  split
  · rename_i opened
    exact absurd (List.cons.inj opened).1 noBracket
  · rfl

private theorem pieces_nil : pieces [] = [] := by
  rw [pieces]
  rfl

private theorem pieces_tag (found : tag? text = some (piece, after)) :
    pieces text = piece :: pieces after := by
  rw [pieces]
  split
  · rename_i other rest same
    rw [found] at same
    obtain ⟨rfl, rfl⟩ := Prod.mk.inj (Option.some.inj same)
    rfl
  · rename_i none
    rw [found] at none
    cases none

private theorem pieces_plain (untagged : tag? (c :: text) = none) :
    pieces (c :: text) = prepend c (pieces text) := by
  rw [pieces]
  split
  · rename_i same
    rw [untagged] at same
    cases same
  · rfl

def safe (text : List Char) : List Char :=
  (pieces text).flatMap Piece.escaped

private theorem safe_tag (found : tag? text = some (.tag backslashes body, after)) :
    safe text = List.replicate (2 * backslashes + 1) '\\' ++ (bracketed body ++ safe after) := by
  rw [safe, pieces_tag found, List.flatMap_cons, Piece.escaped, List.append_assoc]
  rfl

private theorem safe_plain (untagged : tag? (c :: text) = none) :
    safe (c :: text) = c :: safe text := by
  rw [safe, pieces_plain untagged, safe]
  cases pieces text with
  | nil => rfl
  | cons first others => cases first <;> rfl

private theorem closes_of_safe {tail : List Char} (marks : ∀ c ∈ tail, c = '\\')
    (plain : ∀ c ∈ body, inTag c = true) (closed : safe text ++ tail = body ++ ']' :: after) :
    ∃ rest, text = body ++ ']' :: rest := by
  induction text using pieces.induct generalizing body with
  | case1 text piece rest found ih =>
      obtain ⟨backslashes, inner, isBody, rfl, _⟩ := tag_eq_some.mp found
      have inside : ∀ c ∈ List.replicate (2 * backslashes + 1) '\\', inTag c = true :=
        fun c member => by
          rw [List.eq_of_mem_replicate member]
          decide
      rw [safe_tag found, bracketed] at closed
      have brackets := congrArg (List.dropWhile inTag) closed
      rw [List.append_assoc, List.dropWhile_append_of_pos inside,
        List.dropWhile_append_of_pos plain] at brackets
      simp [inTag] at brackets
  | case2 untagged =>
      have bracket : ']' ∈ tail := by
        rw [safe, pieces_nil, List.flatMap_nil, List.nil_append] at closed
        rw [closed]
        exact List.mem_append_right body List.mem_cons_self
      exact absurd (marks ']' bracket) (by decide)
  | case3 c rest untagged ih =>
      rw [safe_plain untagged, List.cons_append] at closed
      cases body with
      | nil => exact ⟨rest, by rw [(List.cons.inj closed).1]; rfl⟩
      | cons first body =>
          obtain ⟨same, closed⟩ := List.cons.inj closed
          obtain ⟨others, rfl⟩ := ih (List.forall_mem_cons.mp plain).2 closed
          exact ⟨others, by rw [same]; rfl⟩

private theorem tag_safe {tail : List Char} (marks : ∀ c ∈ tail, c = '\\')
    (untagged : tag? text = none) :
    tag? (safe text ++ tail) = none := by
  induction text using pieces.induct with
  | case1 text piece rest found ih =>
      rw [found] at untagged
      cases untagged
  | case2 _ =>
      cases found : tag? (safe [] ++ tail) with
      | none => rfl
      | some tagged =>
          obtain ⟨backslashes, body, _, _, split⟩ := tag_eq_some.mp found
          rw [safe, pieces_nil, List.flatMap_nil, List.nil_append] at split
          have bracket : '[' ∈ tail := by
            rw [split]
            exact List.mem_append_right _ List.mem_cons_self
          exact absurd (marks '[' bracket) (by decide)
  | case3 c rest _ ih =>
      cases found : tag? (safe (c :: rest) ++ tail) with
      | none => rfl
      | some tagged =>
          obtain ⟨backslashes, body, isBody, _, split⟩ := tag_eq_some.mp found
          rw [safe_plain untagged, List.cons_append, bracketed_append] at split
          cases backslashes with
          | zero =>
              obtain ⟨rfl, closed⟩ := List.cons.inj split
              obtain ⟨others, rfl⟩ := closes_of_safe marks isBody.inTag closed
              have begins : tag? ('[' :: (body ++ ']' :: others)) =
                  some (.tag 0 body, others) :=
                tag_eq_some.mpr ⟨0, body, isBody, rfl, by simp [bracketed]⟩
              rw [begins] at untagged
              cases untagged
          | succ backslashes =>
              obtain ⟨rfl, behind⟩ := List.cons.inj split
              have later : tag? (safe rest ++ tail) = some (.tag backslashes body, tagged.2) :=
                tag_eq_some.mpr ⟨backslashes, body, isBody, rfl, by
                  rw [bracketed_append]
                  exact behind⟩
              rw [ih (untagged_behind untagged)] at later
              cases later

def Piece.isText : Piece → Bool
  | .plain _ => true
  | .tag backslashes _ => backslashes % 2 = 1

private theorem prepend_isText {others : List Piece}
    (texts : ∀ piece ∈ others, piece.isText = true) :
    ∀ piece ∈ prepend c others, piece.isText = true := by
  cases others with
  | nil => simp [prepend, Piece.isText]
  | cons first rest =>
      obtain ⟨_, later⟩ := List.forall_mem_cons.mp texts
      cases first with
      | plain text => exact List.forall_mem_cons.mpr ⟨rfl, later⟩
      | tag backslashes body => exact List.forall_mem_cons.mpr ⟨rfl, texts⟩

private theorem pieces_marks {tail : List Char} (marks : ∀ c ∈ tail, c = '\\') :
    ∀ piece ∈ pieces tail, piece.isText = true := by
  induction tail with
  | nil => simp [pieces_nil]
  | cons c rest ih =>
      have untagged : tag? (c :: rest) = none := by
        have none : tag? [] = none := rfl
        have same := tag_safe marks none
        rwa [safe, pieces_nil, List.flatMap_nil, List.nil_append] at same
      rw [pieces_plain untagged]
      exact prepend_isText (ih (List.forall_mem_cons.mp marks).2)

private theorem pieces_safe {tail : List Char} (marks : ∀ c ∈ tail, c = '\\') (text : List Char) :
    ∀ piece ∈ pieces (safe text ++ tail), piece.isText = true := by
  induction text using pieces.induct with
  | case1 text piece rest found ih =>
      obtain ⟨backslashes, body, isBody, rfl, _⟩ := tag_eq_some.mp found
      have begins : tag? (safe text ++ tail) =
          some (.tag (2 * backslashes + 1) body, safe rest ++ tail) :=
        tag_eq_some.mpr ⟨_, body, isBody, rfl, by rw [safe_tag found]; simp⟩
      rw [pieces_tag begins]
      exact List.forall_mem_cons.mpr ⟨by simp [Piece.isText], ih⟩
  | case2 _ =>
      rw [safe, pieces_nil]
      exact pieces_marks marks
  | case3 c rest untagged ih =>
      have stays := tag_safe marks untagged
      rw [safe_plain untagged, List.cons_append] at stays ⊢
      rw [pieces_plain stays]
      exact prepend_isText ih

private theorem pieces_escaped (text : String) :
    ∀ piece ∈ pieces (escaped text).toList, piece.isText = true := by
  rw [escaped, String.toList_ofList]
  split
  · exact pieces_safe (by simp) text.toList
  · have same := pieces_safe (List.forall_mem_nil fun c => c = '\\') text.toList
    rwa [List.append_nil] at same

def Piece.shown : Piece → List Char
  | .plain text => Markup.shown (unescaped text)
  | .tag backslashes body =>
    List.replicate (backslashes / 2) '\\' ++ Markup.shown (bracketed body)

private theorem styledFrom_text {texts : List Piece}
    (areText : ∀ piece ∈ texts, piece.isText = true)
    (tags : List OpenTag) (position place : Nat) :
    styledFrom tags position place texts =
      .ok (texts.flatMap Piece.shown,
        tags.map (OpenTag.runOut (place + (texts.flatMap Piece.shown).length))) := by
  induction texts generalizing position place with
  | nil => rfl
  | cons first rest ih =>
      obtain ⟨isText, others⟩ := List.forall_mem_cons.mp areText
      have length : place + (first.shown ++ rest.flatMap Piece.shown).length =
          place + first.shown.length + (rest.flatMap Piece.shown).length := by
        rw [List.length_append, Nat.add_assoc]
      rw [List.flatMap_cons, length]
      cases first with
      | plain text =>
          rw [styledFrom, ih others]
          rfl
      | tag backslashes body =>
          have odd : backslashes % 2 = 1 := by simpa [Piece.isText] using isText
          rw [styledFrom]
          simp only [odd, if_true, ih others]
          rfl

def labelled (label text : String) : String :=
  "[red]" ++ label ++ "[/red] " ++ escaped text

def IsLabel (label : List Char) : Prop :=
  label ≠ [] ∧ ∀ c ∈ label, c ≠ '\\' ∧ c ≠ '['

-- By the characters of the label: a search over all characters would never end.
instance (label : List Char) : Decidable (IsLabel label) :=
  @instDecidableAnd (label ≠ []) _ inferInstance
    (List.decidableBAll (fun c => c ≠ '\\' ∧ c ≠ '[') label)

private theorem pieces_label {label : List Char} (isLabel : IsLabel label)
    (tagged : tag? text = some (piece, after)) :
    pieces (label ++ text) = .plain label :: pieces text := by
  obtain ⟨some, plain⟩ := isLabel
  obtain ⟨c, rest, rfl⟩ := List.exists_cons_of_ne_nil some
  obtain ⟨backslashes, body, _, rfl, _⟩ := tag_eq_some.mp tagged
  induction rest generalizing c with
  | nil =>
      obtain ⟨noMark, noBracket⟩ := plain c List.mem_cons_self
      rw [List.singleton_append, pieces_plain (tag_of_plain noMark noBracket), pieces_tag tagged]
      rfl
  | cons next rest ih =>
      obtain ⟨⟨noMark, noBracket⟩, others⟩ := List.forall_mem_cons.mp plain
      rw [List.cons_append, pieces_plain (tag_of_plain noMark noBracket),
        ih next (List.cons_ne_nil next rest) others]
      rfl

private theorem isBody_red : IsBody ['r', 'e', 'd'] :=
  ⟨'r', ['e', 'd'], rfl, by decide, List.all_eq_true.mp (by decide)⟩

private theorem isBody_closingRed : IsBody ['/', 'r', 'e', 'd'] :=
  ⟨'/', ['r', 'e', 'd'], rfl, by decide, List.all_eq_true.mp (by decide)⟩

private theorem pieces_labelled {label : String} (isLabel : IsLabel label.toList) (text : String) :
    pieces (labelled label text).toList =
      .tag 0 ['r', 'e', 'd'] :: .plain label.toList :: .tag 0 ['/', 'r', 'e', 'd'] ::
        prepend ' ' (pieces (escaped text).toList) := by
  have opening : tag? (labelled label text).toList =
      some (.tag 0 ['r', 'e', 'd'], label.toList ++ "[/red] ".toList ++ (escaped text).toList) :=
    tag_eq_some.mpr ⟨0, _, isBody_red, rfl, by simp [labelled, bracketed]⟩
  have closing : tag? ("[/red] ".toList ++ (escaped text).toList) =
      some (.tag 0 ['/', 'r', 'e', 'd'], ' ' :: (escaped text).toList) :=
    tag_eq_some.mpr ⟨0, _, isBody_closingRed, rfl, by simp [bracketed]⟩
  have blank : tag? (' ' :: (escaped text).toList) = none :=
    tag_of_plain (by decide) (by decide)
  rw [pieces_tag opening, List.append_assoc, pieces_label isLabel closing, pieces_tag closing,
    pieces_plain blank]

def shownBehind (text : String) : List Char :=
  (prepend ' ' (pieces (escaped text).toList)).flatMap Piece.shown

private theorem normalName_red : normalName ['r', 'e', 'd'] = .ok "red" :=
  congrArg (Except.mapError TagError.number) Style.normalName_red

private theorem follow_red (position place : Nat) :
    follow [] position place ['r', 'e', 'd'] = .ok (none, [⟨"red", none, place⟩]) := by
  have word : ['r', 'e', 'd'].takeWhile (· != '=') = ['r', 'e', 'd'] := by decide
  have bare : Text.cutAt? '=' ['r', 'e', 'd'] = none := by decide
  rewrite [follow, word, bare]
  exact bind_eq_ok.mpr ⟨"red", normalName_red, rfl⟩

private theorem close_red (start place : Nat) :
    OpenTag.close place ⟨"red", none, start⟩ = .ok ⟨start, place, "red"⟩ := by
  have still : "red".startsWith "@" = false := by decide +kernel
  rw [OpenTag.close, OpenTag.isAction, still]
  rfl

private theorem follow_closingRed (start position place : Nat) :
    follow [⟨"red", none, start⟩] position place ['/', 'r', 'e', 'd'] =
      .ok (some ⟨start, place, "red"⟩, []) := by
  have word : ['/', 'r', 'e', 'd'].takeWhile (· != '=') = ['/', 'r', 'e', 'd'] := by decide
  have ink : (Text.trim ['r', 'e', 'd']).isEmpty = false := by decide +kernel
  have taken : take? "red" [⟨"red", none, start⟩] = some (⟨"red", none, start⟩, []) := if_pos rfl
  rewrite [follow, word]
  simp only [ink, Bool.false_eq_true, if_false]
  refine bind_eq_ok.mpr ⟨"red", normalName_red, ?_⟩
  rewrite [taken]
  exact bind_eq_ok.mpr ⟨_, close_red start place, rfl⟩

private theorem styledFrom_tag {tags left : List OpenTag} {position place : Nat}
    {ended : Option Stretch}
    {others : List Piece} {shown : List Char} {stretches : List Stretch}
    (followed : follow tags position place body = .ok (ended, left))
    (later : styledFrom left (position + body.length + 2) place others = .ok (shown, stretches)) :
    styledFrom tags position place (.tag 0 body :: others) =
      .ok (shown, ended.toList ++ stretches) := by
  rw [styledFrom]
  simp only [Nat.zero_mod, Nat.zero_ne_one, if_false]
  exact bind_eq_ok.mpr ⟨_, followed, bind_eq_ok.mpr ⟨_, later, rfl⟩⟩

private theorem styledFrom_plain {tags : List OpenTag} {position place : Nat} {others : List Piece}
    {after : List Char} {stretches : List Stretch}
    (later : styledFrom tags (position + text.length) (place + (shown (unescaped text)).length)
      others = .ok (after, stretches)) :
    styledFrom tags position place (.plain text :: others) =
      .ok (shown (unescaped text) ++ after, stretches) :=
  bind_eq_ok.mpr ⟨_, later, rfl⟩

theorem styled_labelled {label : String} (isLabel : IsLabel label.toList) (text : String) :
    styled (labelled label text) =
      .ok ⟨shown (unescaped label.toList) ++ shownBehind text,
        [⟨0, (shown (unescaped label.toList)).length, "red"⟩]⟩ := by
  let front := shown (unescaped label.toList)
  have behind (position place : Nat) : styledFrom [] position place
      (prepend ' ' (pieces (escaped text).toList)) = .ok (shownBehind text, []) :=
    styledFrom_text (prepend_isText (pieces_escaped text)) [] position place
  have all : styledFrom [] 0 0 (.tag 0 ['r', 'e', 'd'] :: .plain label.toList ::
      .tag 0 ['/', 'r', 'e', 'd'] :: prepend ' ' (pieces (escaped text).toList)) =
      .ok (front ++ shownBehind text, [⟨0, 0 + front.length, "red"⟩]) :=
    styledFrom_tag (follow_red 0 0) <|
      styledFrom_plain <| styledFrom_tag (follow_closingRed 0 _ _) (behind _ _)
  rw [styled, pieces_labelled isLabel]
  refine bind_eq_ok.mpr ⟨_, all, ?_⟩
  rw [Nat.zero_add]
  simp only [List.reverse_singleton, List.mergeSort_singleton]
  rfl

end Markup
end ModelViews
