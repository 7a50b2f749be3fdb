import ModelViews.Proofs.DeclarationOrder
import ModelViews.Proofs.LineGrammar

namespace ModelViews

open Annotation (Carries optionPayloads optionsSuffix)
open Documentation (Annotates annotationsOf carries lineAnnotation? lineFault? linesOf)
open Text (First)

namespace DirectiveKind

def concealing : List DirectiveKind :=
  [hidden, hiddenInput, hiddenCreate, hiddenUpdate]

example : concealing.flatMap aliases = ["@prisma-arktype.hide", "@prisma-arktype.hidden",
    "@prisma-arktype.input.hide", "@prisma-arktype.input.hidden",
    "@prisma-arktype.create.input.hide", "@prisma-arktype.create.input.hidden",
    "@prisma-arktype.update.input.hide", "@prisma-arktype.update.input.hidden"] :=
  rfl

end DirectiveKind

/-- A payload that options can carry on a line: it is not empty, does not break the line, and names no
directive that hides. -/
structure IsPayload (payload : String) : Prop where
  nonempty : payload ≠ ""
  oneLine : '\n' ∉ payload.toList
  concealsNothing : ∀ kind ∈ DirectiveKind.concealing, ¬ kind.StandsOn payload

def optionsLine (payload : String) : String :=
  "@prisma-arktype.options\x7b" ++ payload ++ "\x7d"

def pipeText (payloads : List String) : String :=
  if payloads = [] then "" else ".pipe(" ++ ", ".intercalate payloads ++ ")"

private theorem optionsSuffix_eq (annotations : List Annotation) :
    optionsSuffix annotations = pipeText (optionPayloads annotations) := by
  simp only [optionsSuffix, pipeText, List.isEmpty_iff]

section Lines

variable {payload line next : String} {text extended : Option String} {payloads : List String}

private theorem toList_opening :
    "@prisma-arktype.options\x7b".toList = "@prisma-arktype.options".toList ++ ['\x7b'] := by
  decide +kernel

private theorem toList_optionsLine (payload : String) :
    (optionsLine payload).toList =
      "@prisma-arktype.options\x7b".toList ++ (payload.toList ++ ['\x7d']) := by
  have parts (opening closing : String) : (opening ++ payload ++ closing).toList =
      opening.toList ++ (payload.toList ++ closing.toList) := by
    simp
  exact parts "@prisma-arktype.options\x7b" "\x7d"

private theorem optionsLine_braces (payload : String) :
    (optionsLine payload).toList =
      "@prisma-arktype.options".toList ++ '\x7b' :: (payload.toList ++ ['\x7d']) :=
  calc
    _ = "@prisma-arktype.options\x7b".toList ++ (payload.toList ++ ['\x7d']) :=
      toList_optionsLine payload
    _ = "@prisma-arktype.options".toList ++ ['\x7b'] ++ (payload.toList ++ ['\x7d']) :=
      congrArg (· ++ (payload.toList ++ ['\x7d'])) toList_opening
    _ = _ := List.append_assoc _ _ _

private theorem alias_concealing {kind : DirectiveKind} (conceals : kind ∈ DirectiveKind.concealing)
    {name : String} (isAlias : name ∈ kind.aliases) :
    '\x7b' ∉ name.toList ∧ '\x7d' ∉ name.toList ∧
      ¬ name.toList <:+: "@prisma-arktype.options".toList ∧ name.toList ≠ [] := by
  have each : ∀ kind ∈ DirectiveKind.concealing, ∀ name ∈ kind.aliases,
      '\x7b' ∉ name.toList ∧ '\x7d' ∉ name.toList ∧
        ¬ name.toList <:+: "@prisma-arktype.options".toList ∧ name.toList ≠ [] := by
    decide +kernel
  exact each kind conceals name isAlias

private theorem optionsLine_leads (usable : IsPayload payload) :
    DirectiveKind.options.Leads (optionsLine payload) := by
  refine ⟨DirectiveKind.concealing, [.typeOverwrite], rfl, ?_, ?_⟩
  · refine ⟨"@prisma-arktype.options", List.mem_singleton_self _, ?_⟩
    rw [optionsLine_braces]
    exact List.infix_append_left
  · rintro kind conceals ⟨name, isAlias, stands⟩
    obtain ⟨noOpening, noClosing, notBefore, nonempty⟩ := alias_concealing conceals isAlias
    rw [optionsLine_braces] at stands
    -- An alias without a brace stands before, between or behind the braces.
    rcases Text.infix_of_free noOpening stands with before | stands
    · exact notBefore before
    · rcases Text.infix_of_free noClosing stands with between | behind
      · exact usable.concealsNothing kind conceals ⟨name, isAlias, between⟩
      · exact nonempty (List.infix_nil.mp behind)

private theorem optionsLine_annotates (usable : IsPayload payload) :
    Annotates (optionsLine payload) ⟨.options, some payload⟩ := by
  refine ⟨optionsLine_leads usable, ?_⟩
  have nonempty : payload.toList ≠ [] := by simpa using usable.nonempty
  have opened : First "@prisma-arktype.options\x7b".toList (optionsLine payload).toList []
      (payload.toList ++ '\x7d' :: []) :=
    ⟨toList_optionsLine payload, fun _ _ _ => Nat.zero_le _⟩
  have carried := Carries.options opened List.not_mem_nil nonempty
  rwa [String.ofList_toList] at carried

private theorem newline_not_mem_optionsLine (usable : IsPayload payload) :
    '\n' ∉ (optionsLine payload).toList := by
  have opens : '\n' ∉ "@prisma-arktype.options\x7b".toList := by decide +kernel
  have closes : '\n' ∉ ['\x7d'] := by decide
  rw [toList_optionsLine, List.mem_append, List.mem_append, not_or, not_or]
  exact ⟨opens, usable.oneLine, closes⟩

/-- A text with one more line at its end. The line begins behind a line feed, or at once where there is
no text, or one that is empty or that a line feed ends. -/
inductive AppendsLine (line : String) : Option String → String → Prop where
  | first : AppendsLine line none line
  | fed (text : String) : AppendsLine line (some text) (text ++ "\n" ++ line)
  | begun (text : String) (begins : text = "" ∨ ∃ before, text = before ++ "\n") :
      AppendsLine line (some text) (text ++ line)

/-- A text with a line of options for each payload at its end. -/
inductive AppendsOptions : List String → Option String → Option String → Prop where
  | nil (text : Option String) : AppendsOptions [] text text
  | cons {payload : String} {payloads : List String} {text extended : Option String} {next : String}
      (line : AppendsLine (optionsLine payload) text next)
      (others : AppendsOptions payloads (some next) extended) :
      AppendsOptions (payload :: payloads) text extended

private theorem Text.lines_single (oneLine : '\n' ∉ line.toList) : Text.lines line = [line] := by
  rw [Text.lines, Text.pieces, List.splitOn_eq_singleton oneLine, List.map_singleton,
    String.ofList_toList]

private theorem Text.lines_fed (text line : String) (oneLine : '\n' ∉ line.toList) :
    lines (text ++ "\n" ++ line) = lines text ++ [line] :=
  calc
    lines (text ++ "\n" ++ line) = lines text ++ lines line := pieces_append '\n' text line
    _ = lines text ++ [line] := by rw [lines_single oneLine]

/-- A line that is appended is the last one, behind those that there were; an empty one at their end
goes. -/
theorem AppendsLine.lines (appends : AppendsLine line text next) (oneLine : '\n' ∉ line.toList) :
    ∃ kept, linesOf (some next) = kept ++ [line] ∧
      (linesOf text = kept ∨ linesOf text = kept ++ [""]) := by
  cases appends with
  | first => exact ⟨[], Text.lines_single oneLine, .inr rfl⟩
  | fed text => exact ⟨Text.lines text, Text.lines_fed text line oneLine, .inl rfl⟩
  | begun text begins =>
      rcases begins with rfl | ⟨before, rfl⟩
      · refine ⟨[], ?_, .inr rfl⟩
        rw [String.empty_append]
        exact Text.lines_single oneLine
      · refine ⟨Text.lines before, Text.lines_fed before line oneLine, .inr ?_⟩
        have closed := Text.lines_fed before "" (by simp)
        rwa [String.append_empty] at closed

private theorem optionsLine_sound (usable : IsPayload payload) :
    lineFault? (optionsLine payload) = none := by
  have annotates := optionsLine_annotates usable
  obtain ⟨_, _, _, stands, _⟩ := annotates.leads
  have directive : Documentation.IsDirective (optionsLine payload) :=
    ⟨.options, by decide, stands⟩
  rw [Documentation.lineFault_eq_none directive]
  exact ⟨_, Documentation.lineAnnotation_eq_some.mpr annotates⟩

def optionsNote (payload : String) : Annotation :=
  ⟨.options, some payload⟩

/-- With one more line of options a documentation is still read, and has one more annotation. -/
theorem AppendsLine.read (appends : AppendsLine (optionsLine payload) text next)
    (usable : IsPayload payload) {doc : Documentation} (gave : Documentation.read text = .ok doc) :
    ∃ other, Documentation.read (some next) = .ok other ∧
      other.annotations = doc.annotations ++ [optionsNote payload] := by
  obtain ⟨kept, lines, before⟩ := appends.lines (newline_not_mem_optionsLine usable)
  have made : lineAnnotation? (optionsLine payload) = some (optionsNote payload) :=
    Documentation.lineAnnotation_eq_some.mpr (optionsLine_annotates usable)
  have nothing : lineAnnotation? "" = none := by decide +kernel
  have same : annotationsOf text = kept.filterMap lineAnnotation? := by
    rw [annotationsOf]
    rcases before with before | before
    · rw [before]
    · simp [before, nothing]
  have more : annotationsOf (some next) = annotationsOf text ++ [optionsNote payload] := by
    rw [same, annotationsOf, lines]
    simp [made]
  have sound : ∀ line ∈ linesOf (some next), lineFault? line = none := by
    intro line member
    rw [lines, List.mem_append, List.mem_singleton] at member
    rcases member with member | rfl
    · apply Documentation.sound_of_read gave
      rcases before with before | before
      · rwa [before]
      · rw [before]
        exact List.mem_append_left _ member
    · exact optionsLine_sound usable
  refine ⟨⟨annotationsOf (some next), Documentation.prose next⟩, ?_, ?_⟩
  · exact Documentation.read_eq_ok.mpr ⟨sound, rfl, rfl⟩
  · rw [Documentation.read_annotations gave]
    exact more

/-- With a line of options for each payload it has one more annotation for each, in their order. -/
theorem AppendsOptions.read (appends : AppendsOptions payloads text extended)
    (usable : ∀ payload ∈ payloads, IsPayload payload) {doc : Documentation}
    (gave : Documentation.read text = .ok doc) :
    ∃ other, Documentation.read extended = .ok other ∧
      other.annotations = doc.annotations ++ payloads.map optionsNote := by
  induction appends generalizing doc with
  | nil text => exact ⟨doc, gave, by simp⟩
  | cons line others ih =>
      rw [List.forall_mem_cons] at usable
      obtain ⟨middle, first, annotations⟩ := line.read usable.1 gave
      obtain ⟨last, rest, others⟩ := ih usable.2 first
      refine ⟨last, rest, ?_⟩
      rw [others, annotations, List.map_cons, List.append_assoc, List.singleton_append]

private theorem optionPayloads_append (annotations : List Annotation) (payloads : List String) :
    optionPayloads (annotations ++ payloads.map optionsNote) =
      optionPayloads annotations ++ payloads := by
  have given : optionPayloads (payloads.map optionsNote) = payloads := by
    rw [optionPayloads, List.filterMap_map]
    exact List.filterMap_some
  rw [optionPayloads, List.filterMap_append]
  exact congrArg (optionPayloads annotations ++ ·) given

private theorem hidden_append {doc other : Documentation}
    (more : other.annotations = doc.annotations ++ payloads.map optionsNote) :
    other.hidden = doc.hidden := by
  have none : (payloads.map optionsNote).any (fun note => note.kind = .hidden) = false := by
    simp [optionsNote]
  rw [Documentation.hidden, Documentation.hides, more, Annotation.anyOf, List.any_append, none,
    Bool.or_false]
  rfl

end Lines

def Model.documented (model : Model) (text : Option String) : Model :=
  { model with documentation := text }

namespace View

variable {context : Context} {model : Model}

/-- The expression that a view has of a model before the options: an object of what the fields of the
model contribute. A hidden model has none, nor has one without entries if the view does not keep it. -/
def body? (view : View) (context : Context) (model : Model) : Option String :=
  if carries .hidden model.documentation ||
      (view.contributions context model).isEmpty && !view.keepsEmpty then none
  else some (Entry.object ((view.contributions context model).map Prod.snd) [])

private theorem object_options (entries : List Entry) (annotations : List Annotation) :
    Entry.object entries annotations =
      Entry.object entries [] ++ pipeText (optionPayloads annotations) := by
  have none : optionsSuffix [] = "" := rfl
  rw [Entry.object, Entry.object, optionsSuffix_eq, none, String.append_empty]

private theorem rowOf_eq_body (view : View) {doc : Documentation}
    (documented : Documentation.read model.documentation = .ok doc) :
    view.rowOf? context model = (view.body? context model).map fun body =>
      ⟨model.name, body ++ pipeText (optionPayloads doc.annotations)⟩ := by
  have hidden : carries .hidden model.documentation = doc.hidden :=
    (Documentation.hides_eq_carries documented .hidden).symm
  rw [rowOf?, documented, body?, hidden]
  cases hides : doc.hidden with
  | true => simp [hides]
  | false =>
      simp only [hides, row?, List.isEmpty_map, Bool.false_or, Bool.false_eq_true, ↓reduceIte,
        object_options _ doc.annotations]
      cases (view.contributions context model).isEmpty && !view.keepsEmpty <;> rfl

private theorem body_documented (view : View) {other : Context} (alike : other.Alike context)
    {text : Option String} (hides : carries .hidden text = carries .hidden model.documentation) :
    view.body? other (model.documented text) = view.body? context model := by
  have contributed : view.contributions other (model.documented text) =
      view.contributions context model := by
    simp only [contributions, entryOf?, view.choose_alike alike]
    rfl
  rw [body?, body?, contributed, Model.documented, hides]

end View

namespace Datamodel

variable {datamodel : Datamodel} {settings : Settings} {schemas : Schemas}
  {before after : List Model} {model : Model} {text : Option String}

private theorem identity_documented (before after : List Model) (model : Model)
    (text : Option String)
    (name : String) :
    Relation.identity? (before ++ model :: after) name =
      Relation.identity? (before ++ model.documented text :: after) name := by
  simp only [Relation.identity?, model?, List.find?_append, List.find?_cons]
  cases before.find? fun other => other.name = name with
  | some other => rfl
  | none =>
      have same : (model.documented text).name = model.name := rfl
      rw [same]
      cases decide (model.name = name) <;> rfl

def withModels (datamodel : Datamodel) (models : List Model) : Datamodel :=
  { datamodel with models := models }

private theorem context_documented (models : datamodel.models = before ++ model :: after)
    (text : Option String) (settings : Settings) :
    ((datamodel.withModels (before ++ model.documented text :: after)).context settings).Alike
      (datamodel.context settings) where
  settings := rfl
  identity name := by
    change Relation.identity? (before ++ model.documented text :: after) name =
      Relation.identity? datamodel.models name
    rw [models, identity_documented before after model text]
  enum _ := rfl

private theorem compile_documented (compiled : (datamodel.compile settings).outcome = .ok schemas)
    (models : datamodel.models = before ++ model :: after) {doc : Documentation}
    (documented : Documentation.read text = .ok doc)
    (hides : carries .hidden text = carries .hidden model.documentation) :
    ∃ others, ((datamodel.withModels (before ++ model.documented text :: after)).compile
      settings).outcome = .ok others := by
  have sound := compiles_iff_sites.mp ⟨schemas, compiled⟩
  simp only [sites, models, List.flatMap_append, List.flatMap_cons, List.mem_append] at sound
  rw [compiles_iff_sites]
  simp only [sites, withModels, List.flatMap_append, List.flatMap_cons, List.mem_append]
  rintro site (earlier | own | later)
  · exact sound site (.inl earlier)
  · rw [← Option.not_isSome_iff_eq_none]
    intro faulty
    rcases Model.site_error_iff.mp ⟨site, own, faulty⟩ with faulty | ⟨shown, parts⟩
    · rw [← Documentation.firstFault_isSome] at faulty
      change (Documentation.firstFault? text).isSome at faulty
      rw [← Documentation.read_fault, documented, errorOf_ok] at faulty
      cases faulty
    · have shown : carries .hidden model.documentation = false := hides ▸ shown
      obtain ⟨other, member, faulty⟩ := Model.site_error_iff.mpr (.inr ⟨shown, parts⟩)
      rw [sound other (.inr (.inl member))] at faulty
      cases faulty
  · exact sound site (.inr (.inr later))

private theorem rowsOf_body (compiled : (datamodel.compile settings).outcome = .ok schemas)
    (models : datamodel.models = before ++ model :: after) {doc : Documentation}
    (documented : Documentation.read model.documentation = .ok doc) (view : View) :
    schemas.rowsOf view =
      before.filterMap (view.rowOf? (datamodel.context settings)) ++
        ((view.body? (datamodel.context settings) model).toList.map fun body =>
          (⟨model.name, body ++ pipeText (optionPayloads doc.annotations)⟩ : Row)) ++
        after.filterMap (view.rowOf? (datamodel.context settings)) := by
  rw [rowsOf_compile datamodel settings compiled, models, List.filterMap_append,
    List.filterMap_cons, view.rowOf_eq_body documented, List.append_assoc]
  cases view.body? (datamodel.context settings) model <;> rfl

/-- Options are a suffix of the rows of their model. A line of options appended to the documentation of
a model for each of some payloads keeps the compilation from failing and every view the same rows in
the same order; those of the other models stay as they are, and those of the model keep their bodies
and end with the options that there were and the payloads behind them. -/
theorem options_append_suffix (compiled : (datamodel.compile settings).outcome = .ok schemas)
    (models : datamodel.models = before ++ model :: after) {payloads : List String}
    (usable : ∀ payload ∈ payloads, IsPayload payload)
    (appends : AppendsOptions payloads model.documentation text) :
    let context := datamodel.context settings
    let given := optionPayloads (annotationsOf model.documentation)
    ∃ others, ((datamodel.withModels (before ++ model.documented text :: after)).compile
        settings).outcome = .ok others ∧
      ∀ view : View,
        let own (payloads : List String) : List Row :=
          (view.body? context model).toList.map fun body =>
            ⟨model.name, body ++ pipeText payloads⟩
        (others.rowsOf view).map Row.model = (schemas.rowsOf view).map Row.model ∧
        schemas.rowsOf view = before.filterMap (view.rowOf? context) ++ own given ++
          after.filterMap (view.rowOf? context) ∧
        others.rowsOf view = before.filterMap (view.rowOf? context) ++ own (given ++ payloads) ++
          after.filterMap (view.rowOf? context) := by
  intro context given
  have member : model ∈ datamodel.models := by simp [models]
  obtain ⟨doc, documented, _⟩ := compiled_model datamodel settings compiled .plain member
  obtain ⟨other, extended, more⟩ := appends.read usable documented
  have hides : carries .hidden text = carries .hidden model.documentation := by
    rw [← Documentation.hides_eq_carries documented, ← Documentation.hides_eq_carries extended]
    exact hidden_append more
  obtain ⟨others, otherwise⟩ := compile_documented compiled models extended hides
  refine ⟨others, otherwise, ?_⟩
  intro view own
  have alike := context_documented models text settings
  have otherRows : view.rowOf? ((datamodel.withModels (before ++ model.documented text :: after)).context
      settings) = view.rowOf? context :=
    funext fun other => view.rowOf_alike alike other
  have options : optionPayloads doc.annotations = given := by
    rw [Documentation.read_annotations documented]
  have rows := rowsOf_body compiled models documented view
  have rowsOther := rowsOf_body otherwise rfl extended view
  rw [options] at rows
  rw [otherRows, view.body_documented alike hides, more, optionPayloads_append, options] at rowsOther
  refine ⟨?_, rows, rowsOther⟩
  rw [rows, rowsOther]
  simp only [List.map_append, List.map_map]
  rfl

/-- A function with braces and quotes in it, and what would be directives on lines of their own. -/
def laterOptions : List String :=
  ["(row) => (\x7b ...row, kind: \"post\" \x7d), trim",
    "@prisma-arktype.typeOverwrite=string @prisma-arktype.options\x7b"]

theorem blog_options_append :
    ∃ schemas text others body, (blog.compile Settings.standard).outcome = .ok schemas ∧
      (∀ payload ∈ laterOptions, IsPayload payload) ∧
      AppendsOptions laterOptions blog.models[1].documentation text ∧
      ((blog.withModels ([blog.models[0]] ++ blog.models[1].documented text ::
        [blog.models[2]])).compile Settings.standard).outcome = .ok others ∧
      (⟨"Post", body ++ ".pipe(narrow)"⟩ : Row) ∈ schemas.rowsOf .ordering ∧
      (⟨"Post", body ++ pipeText ("narrow" :: laterOptions)⟩ : Row) ∈ others.rowsOf .ordering := by
  obtain ⟨schemas, compiled⟩ := blog_compiles
  let post := blog.models[1]
  have usable : ∀ payload ∈ laterOptions, IsPayload payload := by
    intro payload member
    have each : ∀ payload ∈ laterOptions, payload ≠ "" ∧ '\n' ∉ payload.toList ∧
        ∀ kind ∈ DirectiveKind.concealing, ¬ kind.StandsOn payload := by decide +kernel
    obtain ⟨nonempty, oneLine, conceals⟩ := each payload member
    exact ⟨nonempty, oneLine, conceals⟩
  have appends : AppendsOptions laterOptions post.documentation _ :=
    .cons (.fed _) (.cons (.fed _) (.nil _))
  have models : blog.models = [blog.models[0]] ++ post :: [blog.models[2]] := rfl
  have given : optionPayloads (annotationsOf post.documentation) = ["narrow"] := by decide +kernel
  have present : (View.ordering.body? (blog.context Settings.standard) post).isSome := by
    decide +kernel
  obtain ⟨body, made⟩ := Option.isSome_iff_exists.mp present
  obtain ⟨others, otherwise, each⟩ := options_append_suffix compiled models usable appends
  obtain ⟨_, rows, rowsOther⟩ := each .ordering
  refine ⟨schemas, _, others, body, compiled, usable, appends, otherwise, ?_, ?_⟩
  · rw [rows, given, made]
    simp [post, blog, pipeText]
  · rw [rowsOther, given, made]
    simp [post, blog]

end Datamodel
end ModelViews
