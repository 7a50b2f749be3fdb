import ModelViews.Proofs.Lookups
import ModelViews.Proofs.Precedence
import ModelViews.Proofs.Tables
import ModelViews.Proofs.TypedViews
import ModelViews.Proofs.Warnings
import ModelViews.SourceModule

namespace ModelViews

open Documentation (carries)

def Text.inside? (opening closing text : String) : Option String :=
  (opening.toList.isPrefixOf? text.toList).bind fun rest =>
    (closing.toList.isSuffixOf? rest).map String.ofList

private theorem Text.inside_between (opening body closing : String) :
    Text.inside? opening closing (opening ++ body ++ closing) = some body := by
  have opened : opening.toList.isPrefixOf? (opening ++ body ++ closing).toList =
      some (body.toList ++ closing.toList) := by
    rw [List.isPrefixOf?_eq_some_iff_append_eq]
    simp only [String.toList_append, List.append_assoc]
  have closed : closing.toList.isSuffixOf? (body.toList ++ closing.toList) = some body.toList := by
    rw [List.isSuffixOf?_eq_some_iff_append_eq]
  rw [Text.inside?, opened, Option.bind_some, closed, Option.map_some, String.ofList_toList]

namespace Definition

def HasNoEscapes (text : String) : Prop :=
  ∀ c ∈ text.toList, c ≠ '\\' ∧ c ≠ '"'

private theorem unescaped_shorter {mark : Char} {text found : List Char}
    (read : unescaped? mark text = some found) : found.length < text.length := by
  fun_induction unescaped? mark text generalizing found with
  | case1 => simp at read
  | case2 => simp at read
  | case3 c text _ ih =>
      obtain ⟨inner, others, rfl⟩ := Option.map_eq_some_iff.mp read
      have shorter := ih others
      simp only [List.length_cons]
      omega
  | case4 => simp at read
  | case5 text _ _ =>
      obtain rfl : [] = found := by simpa using read
      exact Nat.zero_lt_succ _
  | case6 => simp at read
  | case7 c text _ _ ih =>
      obtain ⟨inner, others, rfl⟩ := Option.map_eq_some_iff.mp read
      have shorter := ih others
      simp only [List.length_cons]
      omega

private theorem unescaped_self_iff (text : List Char) :
    unescaped? '"' (text ++ ['"']) = some text ↔ ∀ c ∈ text, c ≠ '\\' ∧ c ≠ '"' := by
  induction text with
  | nil => simp [unescaped?]
  | cons c text ih =>
      rw [List.cons_append, List.forall_mem_cons, ← ih]
      by_cases escape : c = '\\'
      · subst escape
        simp only [ne_eq, not_true_eq_false, false_and, iff_false]
        intro read
        obtain ⟨next, others, split⟩ := List.exists_cons_of_ne_nil
          (List.append_ne_nil_of_right_ne_nil text (List.cons_ne_nil '"' []))
        have count : others.length = text.length := by
          simpa using (congrArg List.length split).symm
        rw [split, unescaped?] at read
        split at read
        · obtain ⟨inner, found, same⟩ := Option.map_eq_some_iff.mp read
          have shorter := unescaped_shorter found
          rw [(List.cons.inj same).2] at shorter
          omega
        · simp at read
      · rw [unescaped?]
        · by_cases mark : c = '"'
          · simp [mark]
          · simp [mark, escape]
        · exact escape

private theorem unquote_literal_iff (definition : String) :
    unquote? (literal '"' definition) = some definition ↔ HasNoEscapes definition := by
  rw [HasNoEscapes, ← unescaped_self_iff, literal, unquote?, String.toList_ofList, List.cons_append]
  simp only [true_or, if_true, Option.map_eq_some_iff, ← String.toList_inj, String.toList_ofList,
    exists_eq_right]

end Definition

namespace CompiledEnum

open Definition (HasNoEscapes)

private theorem hasNoEscapes_unionOf (values : List EnumValue) :
    HasNoEscapes (unionOf values) ↔ ∀ value ∈ values, HasNoEscapes value.name := by
  cases values with
  | nil => simp [HasNoEscapes, unionOf]
  | cons first others =>
      simp only [HasNoEscapes, unionOf_toList, List.forall_mem_cons, List.forall_mem_append,
        List.forall_mem_flatMap]
      simp

end CompiledEnum

namespace Schemas

variable {schemas : Schemas} {settings : Settings}

def moduleText? (schemas : Schemas) (settings : Settings) (name : String) : Option String :=
  (schemas.files settings).lookup name

/-- The definition in the literal that the module of a name passes to `type`. -/
def moduleDefinition? (schemas : Schemas) (settings : Settings) (name : String) : Option String :=
  (schemas.moduleText? settings name).bind fun text =>
    (Text.inside? (SourceModule.header settings.importName ++ "export const " ++ name ++ " = type(")
      ");\n" text).bind Definition.unquote?

private theorem named_of_viewModules {view : View} {source : SourceModule}
    (member : source ∈ schemas.viewModules view) :
    (∃ row ∈ schemas.rowsOf view, source.name = SourceModule.viewName row.model view) ∨
      ∃ row ∈ schemas.rowsOf .plain, source.name = row.model := by
  rcases List.mem_append.mp member with ofRow | combined
  · obtain ⟨row, shown, rfl⟩ := List.mem_map.mp ofRow
    exact .inl ⟨row, shown, rfl⟩
  · split at combined
    · obtain ⟨row, shown, rfl⟩ := List.mem_map.mp combined
      exact .inr ⟨row, shown, rfl⟩
    · cases combined

private theorem enum_module {before after : List EnumType} {enum : EnumType}
    (enums : schemas.enums = (before ++ enum :: after).map CompiledEnum.ofEnum)
    (last : ∀ other ∈ after, other.name ≠ enum.name)
    (untaken : ∀ view, ∀ source ∈ schemas.viewModules view, source.name ≠ enum.name) :
    schemas.moduleText? settings enum.name =
      some ((SourceModule.ofEnum (.ofEnum enum)).text settings.importName) := by
  let named (source : SourceModule) := (source.name, source)
  have split : schemas.rendered.map named =
      (before.map fun other => named (.ofEnum (.ofEnum other))) ++
        (enum.name, .ofEnum (.ofEnum enum)) ::
          ((after.map fun other => named (.ofEnum (.ofEnum other))) ++
            (View.all.flatMap schemas.viewModules).map named) := by
    rw [rendered, enums]
    simp only [List.map_append, List.map_map, List.map_cons, List.append_assoc, List.cons_append]
    rfl
  rw [moduleText?, files, Keyed.lookup_map_values, modules, split, Keyed.lookup_ofPairs_last]
  · rfl
  · intro pair member
    rcases List.mem_append.mp member with ofEnum | ofModel
    · obtain ⟨other, present, rfl⟩ := List.mem_map.mp ofEnum
      exact last other present
    · obtain ⟨source, present, rfl⟩ := List.mem_map.mp ofModel
      obtain ⟨view, _, shown⟩ := List.mem_flatMap.mp present
      exact untaken view source shown

private theorem enum_text (enum : EnumType) (importName : String) :
    (SourceModule.ofEnum (.ofEnum enum)).text importName =
      SourceModule.header importName ++ "export const " ++ enum.name ++ " = type(\"" ++
        CompiledEnum.unionOf enum.values ++ "\");\n" := by
  rw [← String.toList_inj]
  simp [SourceModule.text, SourceModule.imports, SourceModule.name, SourceModule.expression,
    CompiledEnum.ofEnum, String.join]

private theorem moduleDefinition_of_text {name union : String}
    (found : schemas.moduleText? settings name =
      some (SourceModule.header settings.importName ++ "export const " ++ name ++ " = type(\"" ++
        union ++ "\");\n")) :
    schemas.moduleDefinition? settings name =
      Definition.unquote? (Definition.literal '"' union) := by
  have text : SourceModule.header settings.importName ++ "export const " ++ name ++ " = type(\"" ++
        union ++ "\");\n" =
      SourceModule.header settings.importName ++ "export const " ++ name ++ " = type(" ++
        Definition.literal '"' union ++ ");\n" := by
    rw [← String.toList_inj]
    simp [Definition.literal]
  rw [moduleDefinition?, found, Option.bind_some, text, Text.inside_between, Option.bind_some]

end Schemas

namespace View

variable {datamodel : Datamodel} {settings : Settings} {model : Model} {field : Field}

private theorem entry_of_enum {view : View} (shows : view ∈ typed) {enum : CompiledEnum}
    (typed : field.hasEnumType = true) (required : field.isRequired = true)
    (single : field.isList = false)
    (found : CompiledEnum.find? (datamodel.context settings).enums field.type = some enum)
    {entry : Entry} (given : view.entryOf? (datamodel.context settings) model field = some entry) :
    entry.type = Definition.quote enum.union := by
  obtain ⟨doc, documented, _, _, type, known, rfl⟩ := (entry_typed shows entry).mp given
  rw [Field.baseType_enum documented typed, found] at known
  obtain rfl : Definition.quote enum.union = type := by simpa using known
  simp [Field.wrapped, Field.isNullable, required, single]

end View

namespace Datamodel

open Definition (HasNoEscapes unquote?)

variable {datamodel : Datamodel} {settings : Settings} {schemas : Schemas}

private theorem last_enum {enums : List EnumType} {name : String}
    (defined : ∃ enum ∈ enums, enum.name = name) :
    ∃ before enum after, enums = before ++ enum :: after ∧ enum.name = name ∧
      ∀ other ∈ after, other.name ≠ name := by
  induction enums with
  | nil => simp at defined
  | cons first rest ih =>
      by_cases later : ∃ enum ∈ rest, enum.name = name
      · obtain ⟨before, enum, after, rfl, named, last⟩ := ih later
        exact ⟨first :: before, enum, after, rfl, named, last⟩
      · obtain ⟨enum, member, named⟩ := defined
        rcases List.mem_cons.mp member with rfl | inRest
        · exact ⟨[], enum, rest, rfl, named, fun other member same => later ⟨other, member, same⟩⟩
        · exact absurd ⟨enum, inRest, named⟩ later

private theorem enum_moduleText (compiled : (datamodel.compile settings).outcome = .ok schemas)
    {before after : List EnumType} {enum : EnumType}
    (split : datamodel.enums = before ++ enum :: after)
    (last : ∀ other ∈ after, other.name ≠ enum.name)
    (untaken : ∀ view, ∀ source ∈ schemas.viewModules view, source.name ≠ enum.name) :
    schemas.moduleText? settings enum.name =
      some (SourceModule.header settings.importName ++ "export const " ++ enum.name ++
        " = type(\"" ++ CompiledEnum.unionOf enum.values ++ "\");\n") := by
  have enums : schemas.enums = (before ++ enum :: after).map CompiledEnum.ofEnum := by
    rw [compile_ok datamodel settings compiled, ← split]
    rfl
  rw [Schemas.enum_module enums last untaken, Schemas.enum_text]

/-- What an enum means where it is used and where it is exported. Both go back to the last enum of the
name. The literal of a required field of it reads as the names of the values, each in single quotes, in
their order; and so does the literal of its module, exactly if none of the names has a double quote or
a backslash. -/
theorem enum_read_alike_iff (compiled : (datamodel.compile settings).outcome = .ok schemas)
    {field : Field} (typed : field.hasEnumType = true) (required : field.isRequired = true)
    (single : field.isList = false)
    (defined : ∃ enum ∈ datamodel.enums, enum.name = field.type)
    (untaken : ∀ view, ∀ source ∈ schemas.viewModules view, source.name ≠ field.type) :
    ∃ before enum after, datamodel.enums = before ++ enum :: after ∧ enum.name = field.type ∧
      (∀ other ∈ after, other.name ≠ field.type) ∧
      let union := " | ".intercalate (enum.values.map fun value => "'" ++ value.name ++ "'")
      (∀ model ∈ datamodel.models, carries .hidden model.documentation = false →
        field ∈ model.fields → carries .hidden field.documentation = false →
          ∃ entry, (field, entry) ∈
            View.plain.contributions (datamodel.context settings) model) ∧
      (∀ view ∈ View.typed, ∀ model entry,
        (field, entry) ∈ view.contributions (datamodel.context settings) model →
          unquote? entry.type = some union) ∧
      schemas.moduleText? settings field.type =
        some (SourceModule.header settings.importName ++ "export const " ++ field.type ++
          " = type(\"" ++ union ++ "\");\n") ∧
      (schemas.moduleDefinition? settings field.type = some union ↔
        ∀ value ∈ enum.values, ∀ c ∈ value.name.toList, c ≠ '\\' ∧ c ≠ '"') := by
  obtain ⟨before, enum, after, split, named, last⟩ := last_enum defined
  refine ⟨before, enum, after, split, named, last, ?_⟩
  intro union
  rw [← named] at last untaken
  have found : CompiledEnum.find? (datamodel.context settings).enums field.type =
      some (.ofEnum enum) := by
    rw [context, split, ← named]
    exact CompiledEnum.find_last last
  have text : schemas.moduleText? settings field.type =
      some (SourceModule.header settings.importName ++ "export const " ++ field.type ++
        " = type(\"" ++ union ++ "\");\n") := by
    rw [← named]
    exact enum_moduleText compiled split last untaken
  refine ⟨?_, ?_, text, ?_⟩
  · intro model member shown present visible
    have emitted : View.plain.emits datamodel settings model field = true := by
      have kind : field.kind = .enum := by
        simp only [Field.hasEnumType, Bool.and_eq_true, decide_eq_true_eq] at typed
        exact typed.1.1
      have typable : field.isTypable datamodel = true := by
        simp [Field.isTypable, kind, defined]
      simp [View.emits, visible, kind, typable]
    have fields := contributions_emitted compiled .plain member shown
    have kept : field ∈ (View.plain.contributions (datamodel.context settings) model).map Prod.fst := by
      rw [fields]
      exact List.mem_filter.mpr ⟨present, emitted⟩
    obtain ⟨⟨_, entry⟩, contributed, rfl⟩ := List.mem_map.mp kept
    exact ⟨entry, contributed⟩
  · intro view shows model entry contributed
    obtain ⟨_, given⟩ := (view.mem_contributions _ model field).mp contributed
    rw [View.entry_of_enum shows typed required single found given, Definition.unquote_quote]
    rfl
  · rw [Schemas.moduleDefinition_of_text text]
    exact (Definition.unquote_literal_iff _).trans (CompiledEnum.hasNoEscapes_unionOf _)

def greeting : Field where
  name := "greeting"
  kind := .enum
  type := "Greeting"

def card : Model where
  name := "Card"
  fields := [greeting]

/-- What cards greet with: a text of their own, or else a farewell. -/
def greetings (text : String) : EnumType where
  name := "Greeting"
  values := [{ name := text }, { name := "BYE" }]

/-- Cards with a greeting. An enum of the same name goes before the one they use. -/
def cards (text : String) : Datamodel where
  models := [card]
  enums := [{ name := "Greeting", values := [{ name := "NONE" }] }, greetings text]

private theorem cards_compile (text : String) :
    ∃ schemas, ((cards text).compile Settings.standard).outcome = .ok schemas := by
  rw [compiles_iff_sites]
  change ∀ site ∈ (cards "").sites, site.error? = none
  decide +kernel

private theorem cards_untaken {text : String}
    (compiled : ((cards text).compile Settings.standard).outcome = .ok schemas) :
    ∀ view, ∀ source ∈ schemas.viewModules view, source.name ≠ "Greeting" := by
  intro view source member
  have ofCard {view : View} {row : Row} (shown : row ∈ schemas.rowsOf view) : row.model = "Card" := by
    obtain ⟨model, present, made⟩ := (mem_rowsOf _ _ compiled).mp shown
    obtain ⟨_, _, _, _, rfl⟩ := (view.rowOf_eq_some _ model).mp made
    obtain rfl := List.mem_singleton.mp present
    rfl
  rcases Schemas.named_of_viewModules member with ⟨row, shown, named⟩ | ⟨row, shown, named⟩
  · rw [named, ofCard shown]
    have apart : ∀ view ∈ View.all, SourceModule.viewName "Card" view ≠ "Greeting" := by decide
    exact apart view view.mem_all
  · rw [named, ofCard shown]
    decide

private theorem cards_last {text : String} {before after : List EnumType} {enum : EnumType}
    (split : (cards text).enums = before ++ enum :: after)
    (last : ∀ other ∈ after, other.name ≠ "Greeting") : enum = greetings text := by
  cases before with
  | nil =>
      obtain ⟨rfl, rfl⟩ := List.cons.inj split
      exact absurd rfl (last _ List.mem_cons_self)
  | cons first before =>
      obtain ⟨_, rest⟩ := List.cons.inj split
      cases before with
      | nil =>
          obtain ⟨rfl, _⟩ := List.cons.inj rest
          rfl
      | cons second before =>
          obtain ⟨_, nothing⟩ := List.cons.inj rest
          exact absurd nothing.symm (by simp)

/-- A name with a single quote is read alike from a card and from the module of the enum. -/
theorem cards_read_alike :
    ∃ schemas, ((cards "it's").compile Settings.standard).outcome = .ok schemas ∧
      (∃ entry, (greeting, entry) ∈
        View.plain.contributions ((cards "it's").context Settings.standard) card ∧
          unquote? entry.type = some "'it's' | 'BYE'") ∧
      schemas.moduleDefinition? Settings.standard "Greeting" = some "'it's' | 'BYE'" := by
  obtain ⟨schemas, compiled⟩ := cards_compile "it's"
  have typed : greeting.hasEnumType = true := by decide +kernel
  obtain ⟨before, enum, after, split, _, last, shows, literal, _, read⟩ :=
    enum_read_alike_iff compiled typed rfl rfl ⟨_, List.mem_cons_self, rfl⟩
      (cards_untaken compiled)
  obtain rfl := cards_last split last
  have bare : ∀ value ∈ (greetings "it's").values,
      (value.name.toList.all fun c => c != '\\' && c != '"') = true := by
    decide +kernel
  obtain ⟨entry, contributed⟩ := shows card (List.mem_singleton_self _) (by decide +kernel)
    (List.mem_singleton_self _) (by decide +kernel)
  refine ⟨schemas, compiled, ⟨entry, contributed, literal .plain (by decide) card entry contributed⟩,
    read.mpr fun value member => Definition.plain_of_all (bare value member)⟩

/-- A name with double quotes is not: the module of the enum ends its literal at the first of them. -/
theorem quoted_greeting_read_apart :
    ∃ schemas, ((cards "say \"hi\"").compile Settings.standard).outcome = .ok schemas ∧
      (∀ view, ∀ source ∈ schemas.viewModules view, source.name ≠ "Greeting") ∧
      greeting ∈ card.fields ∧ card ∈ (cards "say \"hi\"").models ∧
        greeting.hasEnumType = true ∧ greeting.isRequired = true ∧ greeting.isList = false ∧
        greeting.type = "Greeting" ∧ ∃ entry,
          (greeting, entry) ∈
            View.plain.contributions ((cards "say \"hi\"").context Settings.standard) card ∧
          unquote? entry.type = some "'say \"hi\"' | 'BYE'" ∧
          schemas.moduleDefinition? Settings.standard "Greeting" ≠ unquote? entry.type := by
  obtain ⟨schemas, compiled⟩ := cards_compile "say \"hi\""
  let entry : Entry := ⟨"greeting", false, "\"'say \\\"hi\\\"' | 'BYE'\""⟩
  have contributed : (greeting, entry) ∈
      View.plain.contributions ((cards "say \"hi\"").context Settings.standard) card := by
    decide +kernel
  have split : (cards "say \"hi\"").enums =
      [{ name := "Greeting", values := [{ name := "NONE" }] }] ++ greetings "say \"hi\"" :: [] := rfl
  have text := enum_moduleText compiled split (by simp) (cards_untaken compiled)
  refine ⟨schemas, compiled, cards_untaken compiled, List.mem_singleton_self _,
    List.mem_singleton_self _, by decide +kernel, rfl, rfl, rfl, entry, contributed,
    by decide +kernel, ?_⟩
  change schemas.moduleDefinition? Settings.standard (greetings "say \"hi\"").name ≠ _
  rw [Schemas.moduleDefinition_of_text text]
  decide +kernel

end Datamodel
end ModelViews
