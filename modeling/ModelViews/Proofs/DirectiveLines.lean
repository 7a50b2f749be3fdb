import Mathlib.Data.List.Forall2
import ModelViews.Proofs.Faults
import ModelViews.Proofs.Lookups
import ModelViews.Proofs.Trimming

namespace ModelViews

open Documentation (directiveTexts annotations?)

namespace Logged

variable {ε α β γ : Type} {first second : Logged ε α}

/-- Computations that report the same and give the same value, or none. -/
structure Alike (first second : Logged ε α) : Prop where
  log : first.log = second.log
  value : first.outcome.toOption = second.outcome.toOption

theorem Alike.refl (only : Logged ε α) : only.Alike only :=
  ⟨rfl, rfl⟩

private theorem alike_fail (error other : ε) : (fail error : Logged ε α).Alike (fail other) :=
  ⟨rfl, rfl⟩

theorem Alike.cases (alike : first.Alike second) :
    (∃ error other, first.outcome = .error error ∧ second.outcome = .error other) ∨
      ∃ value, first.outcome = .ok value ∧ second.outcome = .ok value := by
  have same := alike.value
  cases one : first.outcome with
  | error error =>
      cases two : second.outcome with
      | error other => exact .inl ⟨error, other, rfl, rfl⟩
      | ok value => simp [one, two, Except.toOption] at same
  | ok value =>
      cases two : second.outcome with
      | error other => simp [one, two, Except.toOption] at same
      | ok other =>
          have equal : value = other := by simpa [one, two, Except.toOption] using same
          exact .inr ⟨value, rfl, by rw [equal]⟩

theorem Alike.bind {next other : α → Logged ε β} (alike : first.Alike second)
    (follows : ∀ value, (next value).Alike (other value)) :
    (first >>= next).Alike (second >>= other) := by
  have log := alike.log
  change (andThen first next).Alike (andThen second other)
  rcases alike.cases with ⟨_, _, one, two⟩ | ⟨value, one, two⟩
  · simp only [andThen, one, two]
    exact ⟨log, rfl⟩
  · simp only [andThen, one, two]
    exact ⟨by rw [log, (follows value).log], (follows value).value⟩

theorem Alike.collect {step : α → Logged ε (Option γ)} {other : β → Logged ε (Option γ)}
    {items : List α} {others : List β}
    (each : List.Forall₂ (fun item second => (step item).Alike (other second)) items others) :
    (collect step items).Alike (collect other others) := by
  induction each with
  | nil => exact .refl _
  | cons head _ ih => exact head.bind fun _ => ih.bind fun _ => .refl _

end Logged

namespace Documentation

private theorem read_cases {first second : Option String}
    (same : directiveTexts first = directiveTexts second) :
    (∃ error other, read first = .error error ∧ read second = .error other) ∨
      ∃ doc other, read first = .ok doc ∧ read second = .ok other ∧
        doc.annotations = other.annotations := by
  have annotations : annotations? first = annotations? second := by
    rw [annotations_eq, annotations_eq, same]
  rw [annotations?, annotations?] at annotations
  cases one : read first with
  | error error =>
      cases two : read second with
      | error other => exact .inl ⟨error, other, rfl, rfl⟩
      | ok other => simp [one, two, Except.toOption] at annotations
  | ok doc =>
      cases two : read second with
      | error error => simp [one, two, Except.toOption] at annotations
      | ok other =>
          have equal : doc.annotations = other.annotations := by
            simpa [one, two, Except.toOption] using annotations
          exact .inr ⟨doc, other, rfl, rfl, equal⟩

end Documentation

/-- Fields that differ in nothing but their documentation, and have the same directive lines there. -/
structure Field.SameDirectives (first second : Field) : Prop where
  rest : second = { first with documentation := second.documentation }
  directives : directiveTexts first.documentation = directiveTexts second.documentation

/-- Models that differ in nothing but documentation, their own and that of their fields, and have the
same directive lines there. -/
structure Model.SameDirectives (first second : Model) : Prop where
  rest : second = { first with fields := second.fields, documentation := second.documentation }
  fields : List.Forall₂ Field.SameDirectives first.fields second.fields
  directives : directiveTexts first.documentation = directiveTexts second.documentation

def EnumType.SameValues (first second : EnumType) : Prop :=
  second = { first with documentation := second.documentation }

/-- Data models that differ in nothing but documentation, and have the same directive lines in that of
models and fields. -/
structure Datamodel.SameDirectives (first second : Datamodel) : Prop where
  models : List.Forall₂ Model.SameDirectives first.models second.models
  enums : List.Forall₂ EnumType.SameValues first.enums second.enums

section Lists

variable {α β γ : Type} {items : List α} {others : List β}

private theorem any_of_forall₂ {keep : α → Bool} {keepOther : β → Bool}
    (each : List.Forall₂ (fun item other => keep item = keepOther other) items others) :
    items.any keep = others.any keepOther := by
  induction each with
  | nil => rfl
  | cons head _ ih => rw [List.any_cons, List.any_cons, head, ih]

private theorem find_of_forall₂ {keep : α → Bool} {keepOther : β → Bool} {give : α → γ}
    {giveOther : β → γ}
    (each : List.Forall₂ (fun item other =>
      keep item = keepOther other ∧ give item = giveOther other) items others) :
    (items.find? keep).map give = (others.find? keepOther).map giveOther := by
  induction each with
  | nil => rfl
  | cons head _ ih =>
      rw [List.find?_cons, List.find?_cons, head.1]
      split
      · exact congrArg some head.2
      · exact ih

end Lists

namespace Model

variable {first second : Model} {field : Field}

private theorem isForeignKey_same (same : first.SameDirectives second) :
    first.isForeignKey field = second.isForeignKey field := by
  have lists : (first.fields.any fun other =>
        other.kind = .object && other.relationFromFields.contains field.name) =
      second.fields.any fun other =>
        other.kind = .object && other.relationFromFields.contains field.name :=
    any_of_forall₂ (same.fields.imp fun _ _ fields => by rw [fields.rest])
  rw [isForeignKey, isForeignKey, lists]

private theorem hasIntegerId_eq (model : Model) :
    model.hasIntegerId = ((model.fields.find? Field.isId).map Field.type).any
      fun type => type = "Int" || type = "BigInt" := by
  rw [hasIntegerId]
  cases model.fields.find? Field.isId <;> rfl

private theorem hasIntegerId_same (same : first.SameDirectives second) :
    first.hasIntegerId = second.hasIntegerId := by
  have found : (first.fields.find? Field.isId).map Field.type =
      (second.fields.find? Field.isId).map Field.type :=
    find_of_forall₂ (same.fields.imp fun _ _ fields => by rw [fields.rest]; exact ⟨rfl, rfl⟩)
  rw [hasIntegerId_eq, hasIntegerId_eq, found]

end Model

namespace Datamodel

variable {first second : Datamodel}

private theorem identity_same (same : first.SameDirectives second) (name : String) :
    Relation.identity? first.models name = Relation.identity? second.models name := by
  refine find_of_forall₂ (same.models.imp fun model other models => ⟨?_, ?_⟩)
  · rw [models.rest]
  · rw [Model.hasIntegerId_same models]

private theorem enums_same (same : first.SameDirectives second) :
    first.enums.map CompiledEnum.ofEnum = second.enums.map CompiledEnum.ofEnum := by
  have each : List.Forall₂ (fun enum other => CompiledEnum.ofEnum enum = CompiledEnum.ofEnum other)
      first.enums second.enums :=
    same.enums.imp fun _ _ values => by rw [values]; rfl
  rwa [← List.forall₂_eq_eq_eq, List.forall₂_map_left_iff, List.forall₂_map_right_iff]

private theorem context_same (same : first.SameDirectives second) (settings : Settings) :
    (first.context settings).Alike (second.context settings) where
  settings := rfl
  identity := identity_same same
  enum name := by rw [context, context, enums_same same]

end Datamodel

namespace View

variable {context otherContext : Context} {model otherModel : Model} {field otherField : Field}

private theorem compileField_same (view : View) (alike : context.Alike otherContext)
    (same : model.SameDirectives otherModel) (fields : field.SameDirectives otherField) :
    (view.compileField context model field).Alike
      (view.compileField otherContext otherModel otherField) := by
  obtain ⟨rest, directives⟩ := fields
  rw [compileField, compileField, choose, choose]
  rcases Documentation.read_cases directives with
    ⟨error, other, one, two⟩ | ⟨doc, other, one, two, annotations⟩
  · simp only [one, two]
    exact Logged.alike_fail error other
  · have hidden : doc.hidden = other.hidden := Documentation.hides_alike annotations .hidden
    have admitted : view.admits context model field doc =
        view.admits otherContext otherModel field other :=
      view.admits_alike alike.settings (Model.isForeignKey_same same) annotations
    have made : view.entry context field doc = view.entry otherContext field other :=
      view.entry_alike alike annotations
    have admitsRest : view.admits otherContext otherModel otherField other =
        view.admits otherContext otherModel field other := by
      rw [rest]
      cases view <;> rfl
    have madeRest : view.entry otherContext otherField other =
        view.entry otherContext field other := by
      rw [rest]
      cases view <;> rfl
    have named : otherField.name = field.name ∧ otherField.type = field.type := by
      rw [rest]
      exact ⟨rfl, rfl⟩
    simp only [one, two, hidden, admitted, made, admitsRest, madeRest, named.1, named.2]
    exact .refl _

private theorem compileModel_same (view : View) (alike : context.Alike otherContext)
    (same : model.SameDirectives otherModel) :
    (view.compileModel context model).Alike (view.compileModel otherContext otherModel) := by
  rw [compileModel, compileModel]
  rcases Documentation.read_cases same.directives with
    ⟨error, other, one, two⟩ | ⟨doc, other, one, two, annotations⟩
  · simp only [one, two]
    exact Logged.alike_fail error other
  · have hidden : doc.hidden = other.hidden := Documentation.hides_alike annotations .hidden
    have named : otherModel.name = model.name := by rw [same.rest]
    have row (entries : List Entry) :
        view.row? model doc entries = view.row? otherModel other entries := by
      rw [row?, row?, named, annotations]
    simp only [one, two, hidden, row]
    split
    · exact .refl _
    · refine Logged.Alike.bind ?_ fun _ => .refl _
      exact .collect (same.fields.imp fun _ _ fields => view.compileField_same alike same fields)

private theorem compile_same (view : View) {first second : Datamodel}
    (same : first.SameDirectives second)
    (settings : Settings) :
    (view.compile (first.context settings)).Alike (view.compile (second.context settings)) :=
  .collect (same.models.imp fun _ _ models =>
    view.compileModel_same (Datamodel.context_same same settings) models)

end View

namespace Datamodel

variable {first second : Datamodel}

private theorem compileViews_same (same : first.SameDirectives second) (settings : Settings)
    (views : List View) :
    (compileViews (first.context settings) views).Alike
      (compileViews (second.context settings) views) := by
  induction views with
  | nil => exact .refl _
  | cons view views ih =>
      refine (view.compile_same same settings).bind fun rows => ?_
      exact (Logged.Alike.refl _).bind fun _ => ih.bind fun _ => .refl _

/-- Data models that differ in prose alone, and in the blanks around directives, compile to the same
schemas and report the same, or both fail. -/
theorem directive_lines_decide (same : first.SameDirectives second) (settings : Settings) :
    ((∃ schemas, (first.compile settings).outcome = .ok schemas ∧
        (second.compile settings).outcome = .ok schemas) ∨
      ∃ error other, (first.compile settings).outcome = .error error ∧
        (second.compile settings).outcome = .error other) ∧
    (first.compile settings).log = (second.compile settings).log := by
  have enums : (first.context settings).enums = (second.context settings).enums := enums_same same
  have alike : (first.compile settings).Alike (second.compile settings) := by
    rw [compile, compile, enums]
    exact (compileViews_same same settings View.all).bind fun _ => .refl _
  exact ⟨alike.cases.symm, alike.log⟩

def account (ofModel ofField : String) : Datamodel where
  models := [
    { name := "Account",
      fields := [
        { name := "mail", kind := .scalar, type := "String", documentation := some ofField }],
      documentation := some ofModel }]

private theorem account_same {ofModel ofField otherModel otherField : String}
    (models : directiveTexts (some ofModel) = directiveTexts (some otherModel))
    (fields : directiveTexts (some ofField) = directiveTexts (some otherField)) :
    (account ofModel ofField).SameDirectives (account otherModel otherField) where
  models := .cons ⟨rfl, .cons ⟨rfl, fields⟩ .nil, models⟩ .nil
  enums := .nil

/-- Other prose, indentation and carriage returns change nothing; and a payload of blanks is missing
with or without them. -/
theorem account_lines_decide :
    let plain := account "Users." "@prisma-arktype.options\x7bnarrow\x7d"
    let indented := account "" " @prisma-arktype.options\x7bnarrow\x7d\r\nMail."
    let blank := account "" "@prisma-arktype.typeOverwrite= \r"
    let bare := account "" "@prisma-arktype.typeOverwrite="
    (∃ schemas, (plain.compile Settings.standard).outcome = .ok schemas ∧
      (indented.compile Settings.standard).outcome = .ok schemas) ∧
    ∃ error other, (blank.compile Settings.standard).outcome = .error error ∧
      (bare.compile Settings.standard).outcome = .error other := by
  intro plain indented blank bare
  have sound : errorOf? (plain.compile Settings.standard).outcome = none := by
    rw [compile_fault_sites]
    decide +kernel
  have faulty : (errorOf? (blank.compile Settings.standard).outcome).isSome := by
    rw [compile_fault_sites]
    decide +kernel
  have kept : plain.SameDirectives indented :=
    account_same (by decide +kernel) (by decide +kernel)
  have lost : blank.SameDirectives bare := account_same rfl (by decide +kernel)
  constructor
  · rcases (directive_lines_decide kept Settings.standard).1 with compiled | ⟨_, _, failed, _⟩
    · exact compiled
    · rw [failed] at sound
      cases sound
  · rcases (directive_lines_decide lost Settings.standard).1 with ⟨_, compiled, _⟩ | failed
    · rw [compiled] at faulty
      cases faulty
    · exact failed

end Datamodel
end ModelViews
