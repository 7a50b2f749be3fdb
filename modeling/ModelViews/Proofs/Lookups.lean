import ModelViews.Proofs.Faults

namespace ModelViews

/-- Contexts that answer all look-ups of the views in the same way. -/
structure Context.Alike (first second : Context) : Prop where
  settings : first.settings = second.settings
  identity : ∀ name,
    Relation.identity? first.models name = Relation.identity? second.models name
  enum : ∀ name, CompiledEnum.find? first.enums name = CompiledEnum.find? second.enums name

theorem CompiledEnum.find_last {before after : List EnumType} {enum : EnumType}
    (last : ∀ other ∈ after, other.name ≠ enum.name) :
    find? ((before ++ enum :: after).map ofEnum) enum.name = some (ofEnum enum) := by
  have later : (after.map ofEnum).reverse.find? (fun other => other.name = enum.name) = none := by
    rw [List.find?_eq_none]
    intro other member
    obtain ⟨compiled, present, rfl⟩ := List.mem_map.mp (List.mem_reverse.mp member)
    rw [decide_eq_true_eq]
    exact last compiled present
  simp [find?, later, ofEnum]

variable {first second : Context} {model other : Model} {field : Field} {doc otherDoc : Documentation}

namespace Documentation

theorem hides_alike (annotations : doc.annotations = otherDoc.annotations) (kind : DirectiveKind) :
    doc.hides kind = otherDoc.hides kind := by
  rw [hides, hides, annotations]

private theorem typeOverwrite_alike (annotations : doc.annotations = otherDoc.annotations) :
    doc.typeOverwrite? = otherDoc.typeOverwrite? := by
  rw [typeOverwrite?, typeOverwrite?, annotations]

end Documentation

private theorem Field.baseType_alike (annotations : doc.annotations = otherDoc.annotations)
    {enums otherEnums : List CompiledEnum}
    (found : CompiledEnum.find? enums field.type = CompiledEnum.find? otherEnums field.type) :
    field.baseType doc enums = field.baseType otherDoc otherEnums := by
  rw [baseType, baseType, Documentation.typeOverwrite_alike annotations, annotations, found]

namespace View

theorem admits_alike (view : View) (settings : first.settings = second.settings)
    (key : model.isForeignKey field = other.isForeignKey field)
    (annotations : doc.annotations = otherDoc.annotations) :
    view.admits first model field doc = view.admits second other field otherDoc := by
  cases view with
  | create =>
      simp only [admits, hidesInput, takesInput, settings, key,
        Documentation.hides_alike annotations]
  | update =>
      simp only [admits, hidesInput, takesInput, settings, key,
        Documentation.hides_alike annotations]
  | relationsCreate => simp only [admits, hidesInput, Documentation.hides_alike annotations]
  | relationsUpdate => simp only [admits, hidesInput, Documentation.hides_alike annotations]
  | _ => rfl

/-- What a view makes of a field it admits rests on the type of the field, if the view shows types, and
on the identity of the model that the field names. -/
theorem entry_congr (view : View)
    (type : view ∈ typed → field.baseType doc first.enums = field.baseType otherDoc second.enums)
    (identity : Relation.identity? first.models field.type =
      Relation.identity? second.models field.type) :
    view.entry first field doc = view.entry second field otherDoc := by
  have shown (view : View)
      (same : field.baseType doc first.enums = field.baseType otherDoc second.enums) :
      view.typedEntry first field doc = view.typedEntry second field otherDoc := by
    rw [typedEntry, typedEntry, same]
  have written (text : String → String) : inputEntry first field text =
      inputEntry second field text := by
    rw [inputEntry, inputEntry, identity]
  cases view with
  | plain => exact shown .plain (type (by decide))
  | filter => exact shown .filter (type (by decide))
  | uniqueFilter => exact shown .uniqueFilter (type (by decide))
  | create => exact shown .create (type (by decide))
  | update => exact shown .update (type (by decide))
  | relationsCreate => exact congrArg Except.ok (written Relation.connect)
  | relationsUpdate => exact congrArg Except.ok (written (Relation.change field))
  | selection => rfl
  | inclusion => rfl
  | ordering => rfl
  | relations => rfl

theorem entry_alike (view : View) (alike : first.Alike second)
    (annotations : doc.annotations = otherDoc.annotations) :
    view.entry first field doc = view.entry second field otherDoc :=
  view.entry_congr (fun _ => Field.baseType_alike annotations (alike.enum field.type))
    (alike.identity field.type)

theorem choose_alike (view : View) (alike : first.Alike second) (model : Model) (field : Field) :
    view.choose first model field = view.choose second model field := by
  rw [choose, choose]
  cases Documentation.read field.documentation with
  | error error => rfl
  | ok doc =>
      have admitted : view.admits first model field doc = view.admits second model field doc :=
        view.admits_alike alike.settings rfl rfl
      have made : view.entry first field doc = view.entry second field doc :=
        view.entry_alike alike rfl
      simp only [admitted, made]

end View
end ModelViews
