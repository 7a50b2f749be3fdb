import ModelViews.View.FieldType

namespace ModelViews

namespace Definition

inductive Enclosed (mark : Char) : List Char → Prop where
  | nil : Enclosed mark []
  | plain {c : Char} {text : List Char} (noEscape : c ≠ '\\') (noMark : c ≠ mark)
      (others : Enclosed mark text) : Enclosed mark (c :: text)
  | escape {c : Char} {text : List Char} (others : Enclosed mark text) :
      Enclosed mark ('\\' :: c :: text)

def IsMark (mark : Char) : Prop :=
  mark = '"' ∨ mark = '\''

variable {mark : Char} {first second : List Char}

theorem Enclosed.append (begun : Enclosed mark first) (ended : Enclosed mark second) :
    Enclosed mark (first ++ second) := by
  induction begun with
  | nil => exact ended
  | plain noEscape noMark _ ih => exact .plain noEscape noMark ih
  | escape _ ih => exact .escape ih

theorem enclosed_of_plain {text : List Char} (plain : ∀ c ∈ text, c ≠ '\\' ∧ c ≠ mark) :
    Enclosed mark text := by
  induction text with
  | nil => exact .nil
  | cons c text ih =>
      obtain ⟨noEscape, noMark⟩ := plain c (by simp)
      exact .plain noEscape noMark (ih fun other member => plain other (by simp [member]))

theorem plain_of_all {text : List Char}
    (all : (text.all fun c => c != '\\' && c != mark) = true) :
    ∀ c ∈ text, c ≠ '\\' ∧ c ≠ mark := by
  simpa using all

theorem IsMark.ne_escape (isMark : IsMark mark) : mark ≠ '\\' := by
  rcases isMark with rfl | rfl <;> decide

private theorem closes_iff (noEscape : mark ≠ '\\') {text : List Char} :
    closes mark text = true ↔ ∃ inside, Enclosed mark inside ∧ text = inside ++ [mark] := by
  constructor
  · intro closed
    fun_induction closes mark text with
    | case1 => simp at closed
    | case2 => simp at closed
    | case3 c text ih =>
        obtain ⟨inside, enclosed, rfl⟩ := ih closed
        exact ⟨'\\' :: c :: inside, .escape enclosed, rfl⟩
    | case4 text _ =>
        have ended : text = [] := by simpa using closed
        exact ⟨[], .nil, by rw [ended]; rfl⟩
    | case5 c text plain different ih =>
        obtain ⟨inside, enclosed, rfl⟩ := ih closed
        exact ⟨c :: inside, .plain plain different enclosed, rfl⟩
  · rintro ⟨inside, enclosed, rfl⟩
    induction enclosed with
    | nil => simp [closes]
    | plain plain different _ ih => simpa [closes, plain, different] using ih
    | escape _ ih => simpa [closes] using ih

theorem isLiteralText_iff {text : List Char} :
    isLiteralText text = true ↔
      ∃ mark inside, IsMark mark ∧ Enclosed mark inside ∧ text = mark :: inside ++ [mark] := by
  constructor
  · intro literal
    unfold isLiteralText at literal
    split at literal
    · obtain ⟨inside, enclosed, rfl⟩ := (closes_iff (by decide)).mp literal
      exact ⟨'"', inside, .inl rfl, enclosed, rfl⟩
    · obtain ⟨inside, enclosed, rfl⟩ := (closes_iff (by decide)).mp literal
      exact ⟨'\'', inside, .inr rfl, enclosed, rfl⟩
    · simp at literal
  · rintro ⟨mark, inside, rfl | rfl, enclosed, rfl⟩
    · exact (closes_iff (by decide)).mpr ⟨inside, enclosed, rfl⟩
    · exact (closes_iff (by decide)).mpr ⟨inside, enclosed, rfl⟩

def literal (mark : Char) (body : String) : String :=
  String.ofList (mark :: body.toList ++ [mark])

theorem isLiteral_iff {text : String} :
    isLiteral text = true ↔
      ∃ mark body, IsMark mark ∧ Enclosed mark body.toList ∧ text = literal mark body := by
  rw [isLiteral, isLiteralText_iff]
  constructor
  · intro found
    obtain ⟨mark, inside, isMark, enclosed, split⟩ := found
    refine ⟨mark, String.ofList inside, isMark, ?_, ?_⟩
    · rw [String.toList_ofList]
      exact enclosed
    · rw [literal, String.toList_ofList, ← split, String.ofList_toList]
  · intro found
    obtain ⟨mark, body, isMark, enclosed, rfl⟩ := found
    exact ⟨mark, body.toList, isMark, enclosed, String.toList_ofList⟩

theorem insideLiteral_literal (wrap : String → String) (mark : Char) (body : String) :
    insideLiteral wrap (literal mark body) = literal mark (wrap body) := by
  rw [insideLiteral, literal, String.toList_ofList, List.cons_append]
  simp only [List.dropLast_concat, String.ofList_toList]
  rfl

private theorem enclosed_escaped (text : List Char) : Enclosed '"' (text.flatMap escaped) := by
  induction text with
  | nil => exact .nil
  | cons c text ih =>
      rw [List.flatMap_cons]
      refine Enclosed.append ?_ ih
      by_cases special : c = '\\' ∨ c = '"'
      · rw [escaped, if_pos special]
        exact .escape .nil
      · rw [escaped, if_neg special]
        obtain ⟨noEscape, noMark⟩ := not_or.mp special
        exact .plain noEscape noMark .nil

theorem isLiteral_quote (definition : String) : isLiteral (quote definition) = true :=
  isLiteralText_iff.mpr ⟨'"', definition.toList.flatMap escaped, .inl rfl,
    enclosed_escaped definition.toList, String.toList_ofList⟩

private theorem isLiteral_overwriteType {text : String} (noCall : isExpression text = false) :
    isLiteral (overwriteType text) = true := by
  rw [overwriteType, noCall, Bool.or_false]
  by_cases literal : isLiteral text = true
  · rw [if_pos literal]
    exact literal
  · rw [if_neg literal]
    exact isLiteral_quote text

private theorem isLiteral_insideLiteral {wrap : String → String}
    (keeps : ∀ {mark : Char} {inside : List Char}, IsMark mark → Enclosed mark inside →
      Enclosed mark (wrap (String.ofList inside)).toList)
    {text : String} (isOne : isLiteral text = true) :
    isLiteral (insideLiteral wrap text) = true := by
  obtain ⟨mark, body, isMark, enclosed, rfl⟩ := isLiteral_iff.mp isOne
  have wrapped := keeps isMark enclosed
  rw [String.ofList_toList] at wrapped
  rw [insideLiteral_literal]
  exact isLiteral_iff.mpr ⟨mark, wrap body, isMark, wrapped, rfl⟩

private theorem enclosed_listOf {inside : List Char} (isMark : IsMark mark)
    (enclosed : Enclosed mark inside) :
    Enclosed mark (listOf (String.ofList inside)).toList := by
  have opens : Enclosed mark "(".toList := by
    apply enclosed_of_plain
    apply plain_of_all
    rcases isMark with rfl | rfl <;> decide
  have ends : Enclosed mark ")[]".toList := by
    apply enclosed_of_plain
    apply plain_of_all
    rcases isMark with rfl | rfl <;> decide
  have brackets : Enclosed mark "[]".toList := by
    apply enclosed_of_plain
    apply plain_of_all
    rcases isMark with rfl | rfl <;> decide
  rw [listOf]
  split
  · rw [String.toList_append, String.toList_append, @String.toList_ofList inside]
    exact (opens.append enclosed).append ends
  · rw [String.toList_append, String.toList_ofList]
    exact enclosed.append brackets

private theorem enclosed_orNullOf {inside : List Char} (isMark : IsMark mark)
    (enclosed : Enclosed mark inside) :
    Enclosed mark (orNullOf (String.ofList inside)).toList := by
  have null : Enclosed mark " | null".toList := by
    apply enclosed_of_plain
    apply plain_of_all
    rcases isMark with rfl | rfl <;> decide
  rw [orNullOf, String.toList_append, String.toList_ofList]
  exact enclosed.append null

theorem isLiteral_arrayOf {type : String} (literal : isLiteral type = true) :
    isLiteral (arrayOf type) = true := by
  rw [arrayOf, if_pos literal]
  exact isLiteral_insideLiteral enclosed_listOf literal

theorem isLiteral_orNull {type : String} (literal : isLiteral type = true) :
    isLiteral (orNull type) = true := by
  rw [orNull, if_pos literal]
  exact isLiteral_insideLiteral enclosed_orNullOf literal

end Definition

namespace Field

open Definition (isLiteral)

section Wrapping

variable {α β : Type} {list null : α → α} {otherList otherNull : β → β}

def wrapping (field : Field) (nullable : Bool) (list null : α → α) (base : α) : α :=
  let listed := if field.isList then list base else base
  if field.isNullable nullable then null listed else listed

theorem wrapped_eq (field : Field) (nullable : Bool) (type : String) :
    field.wrapped nullable type =
      field.wrapping nullable Definition.arrayOf Definition.orNull type :=
  rfl

/-- What both forms keep between two things holds between what a field makes of them. -/
theorem wrapping_relates {R : α → β → Prop} (field : Field) (nullable : Bool)
    (lists : ∀ {first second}, R first second → R (list first) (otherList second))
    (nulls : ∀ {first second}, R first second → R (null first) (otherNull second))
    {first : α} {second : β} (related : R first second) :
    R (field.wrapping nullable list null first)
      (field.wrapping nullable otherList otherNull second) := by
  have listed : R (if field.isList then list first else first)
      (if field.isList then otherList second else second) := by
    by_cases isList : field.isList = true
    · rw [if_pos isList, if_pos isList]
      exact lists related
    · rw [if_neg isList, if_neg isList]
      exact related
  rw [wrapping, wrapping]
  by_cases isNull : field.isNullable nullable = true
  · rw [if_pos isNull, if_pos isNull]
    exact nulls listed
  · rw [if_neg isNull, if_neg isNull]
    exact listed

theorem wrapping_keeps {P : α → Prop} (field : Field) (nullable : Bool)
    (lists : ∀ {base}, P base → P (list base)) (nulls : ∀ {base}, P base → P (null base))
    {base : α} (holds : P base) : P (field.wrapping nullable list null base) :=
  @wrapping_relates α α list null list null (fun first _ => P first) field nullable
    (fun {_ _} => lists) (fun {_ _} => nulls) base base holds

end Wrapping

theorem isLiteral_wrapped (field : Field) (nullable : Bool) {type : String}
    (isOne : isLiteral type = true) : isLiteral (field.wrapped nullable type) = true := by
  rw [wrapped_eq]
  exact wrapping_keeps (P := fun text => isLiteral text = true) field nullable
    Definition.isLiteral_arrayOf Definition.isLiteral_orNull isOne

theorem isLiteral_baseType {field : Field} {doc : Documentation} {enums : List CompiledEnum}
    {type : String} (known : field.baseType doc enums = .ok (.known type))
    (noCall : ∀ text, doc.typeOverwrite? = some text → Definition.isExpression text = false) :
    isLiteral type = true := by
  rw [baseType] at known
  cases overwritten : doc.typeOverwrite? with
  | some text =>
      simp only [overwritten, Except.ok.injEq, FieldType.known.injEq] at known
      rw [← known]
      exact Definition.isLiteral_overwriteType (noCall text overwritten)
  | none =>
      cases named : Scalar.ofName? field.type with
      | some scalar =>
          cases refined : scalar.refined doc.annotations with
          | error error => simp [overwritten, named, Scalar.type, refined, Except.map] at known
          | ok definition =>
              simp only [overwritten, named, Scalar.type, refined, Except.map, Except.ok.injEq,
                FieldType.known.injEq] at known
              rw [← known]
              exact Definition.isLiteral_quote definition
      | none =>
          simp only [overwritten, named] at known
          split at known
          · split at known
            · simp only [Except.ok.injEq, FieldType.known.injEq] at known
              rw [← known]
              exact Definition.isLiteral_quote _
            · simp at known
          · simp at known

end Field
end ModelViews
