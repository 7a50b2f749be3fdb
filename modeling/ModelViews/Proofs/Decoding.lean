import ModelViews.Proofs.ObjectText
import ModelViews.Proofs.TypedViews

namespace ModelViews

open Documentation (carries annotationsOf)
open ObjectText (Pair Reader Readable)

/-- A model whose entries can be told from their text: the names of its fields are free of quotes and
backslashes, and none of its types is overwritten by an expression. -/
structure Model.IsLegible (model : Model) : Prop where
  names : ∀ field ∈ model.fields, ∀ c ∈ field.name.toList, c ≠ '\\' ∧ c ≠ '"'
  overwrites : ∀ field ∈ model.fields, ∀ directive ∈ annotationsOf field.documentation,
    directive.kind = .typeOverwrite →
      ∀ text ∈ directive.payload, Definition.isExpression text = false

/-- What is written of an entry: its key, with a mark where it may be missing, and its type. -/
def Entry.pair (entry : Entry) : Pair :=
  (if entry.isOptional then entry.key ++ "?" else entry.key, entry.type)

def View.values : View → Reader
  | relationsCreate | relationsUpdate => Reader.literal.orElse Reader.change
  | _ => Reader.literal

private theorem Entry.text_eq_writeEntry (entry : Entry) :
    entry.text = ObjectText.writeEntry entry.pair := by
  rw [text, keyText, pair, ObjectText.writeEntry]
  split
  · simp only [String.append_assoc]
    rfl
  · simp only [String.append_assoc]
    rfl

private theorem Entry.object_eq_write (entries : List Entry) (annotations : List Annotation) :
    object entries annotations =
      ObjectText.write (entries.map pair) ++ Annotation.optionsSuffix annotations := by
  have texts : entries.map text = (entries.map pair).map ObjectText.writeEntry := by
    rw [List.map_map]
    exact List.map_congr_left fun entry _ => entry.text_eq_writeEntry
  rw [object, texts, ObjectText.write, ObjectText.writeEntries]
  simp only [String.append_assoc]

private theorem overwrite_directive {doc : Documentation} {text : String}
    (overwritten : doc.typeOverwrite? = some text) :
    ∃ directive ∈ doc.annotations, directive.kind = .typeOverwrite ∧ text ∈ directive.payload := by
  rw [Documentation.typeOverwrite?, Annotation.typeOverwrite?, Option.bind_eq_some_iff]
    at overwritten
  obtain ⟨directive, found, payload⟩ := overwritten
  have overwrites : directive.kind = .typeOverwrite := by simpa using List.find?_some found
  exact ⟨directive, List.mem_of_find?_eq_some found, overwrites, payload⟩

theorem identity_known {models : List Model} {name identity : String}
    (found : Relation.identity? models name = some identity) : Reader.IsIdentity identity := by
  obtain ⟨target, _, rfl⟩ := Option.map_eq_some_iff.mp found
  split
  · exact .inl rfl
  · exact .inr rfl

namespace View

variable {datamodel : Datamodel} {settings : Settings} {model : Model} {field : Field}
  {entry : Entry}

theorem entry_prints {view : View}
    (given : view.entryOf? (datamodel.context settings) model field = some entry) :
    view.Prints datamodel field entry := by
  cases chosen : view.choose (datamodel.context settings) model field with
  | error error => simp [entryOf?, chosen] at given
  | ok selected =>
      obtain ⟨doc, documented⟩ := read_of_choose chosen
      have printed := view.choose_prints documented chosen
      have same := (entry_of_choose chosen entry).mp given
      split at printed
      · obtain ⟨other, equal, prints⟩ := printed
        rw [same, Selected.entry.injEq] at equal
        exact equal ▸ prints
      · exact absurd same (printed entry)

private theorem typed_takes {type : String} (legible : model.IsLegible)
    (present : field ∈ model.fields)
    (typed : ∃ doc base, Documentation.read field.documentation = .ok doc ∧
      field.baseType doc (datamodel.enums.map CompiledEnum.ofEnum) = .ok (.known base) ∧
      type = field.wrapped true base) :
    Reader.literal.Takes type.toList := by
  obtain ⟨doc, base, documented, known, rfl⟩ := typed
  apply Reader.literal_takes
  apply Field.isLiteral_wrapped
  refine Field.isLiteral_baseType known ?_
  intro text overwritten
  obtain ⟨directive, member, overwrites, payload⟩ := overwrite_directive overwritten
  rw [Documentation.read_annotations documented] at member
  exact legible.overwrites field present directive member overwrites text payload

private theorem values_takes {view : View} (legible : model.IsLegible)
    (present : field ∈ model.fields)
    (printed : view.PrintsType datamodel field entry.type) :
    view.values.Takes entry.type.toList := by
  cases view with
  | plain => exact typed_takes legible present printed
  | filter => exact typed_takes legible present printed
  | uniqueFilter => exact typed_takes legible present printed
  | create => exact typed_takes legible present printed
  | update => exact typed_takes legible present printed
  | selection => exact Reader.literal_takes (printed ▸ by decide +kernel)
  | inclusion => exact Reader.literal_takes (printed ▸ by decide +kernel)
  | ordering => exact Reader.literal_takes (printed ▸ by decide +kernel)
  | relations =>
      apply Reader.literal_takes
      rw [printed, Relation.opaqueType]
      split
      · decide +kernel
      · split <;> decide +kernel
  | relationsCreate =>
      obtain ⟨identity, found, same⟩ := printed
      rw [same]
      exact Reader.connect_takes (identity_known found)
  | relationsUpdate =>
      obtain ⟨identity, found, same⟩ := printed
      rw [same]
      exact Reader.change_takes field (identity_known found)

private theorem entry_readable {view : View} (legible : model.IsLegible)
    (present : field ∈ model.fields)
    (given : view.entryOf? (datamodel.context settings) model field = some entry) :
    Readable view.values entry.pair := by
  have prints := entry_prints given
  refine ⟨?_, values_takes legible present prints.type⟩
  have plainName := legible.names field present
  rw [Entry.pair, prints.key]
  apply Definition.enclosed_of_plain
  split
  · intro c member
    rw [String.toList_append, List.mem_append] at member
    rcases member with inName | isMark
    · exact plainName c inName
    · obtain rfl : c = '?' := by simpa using isMark
      decide
  · exact plainName

end View

namespace Datamodel

/-- The rows of a view decode uniquely. Its reader accepts only what is written, and of every legible
model it gives the entries of the fields, each with its key and its type, and leaves the options of
the model. -/
theorem rows_decode {datamodel : Datamodel} {settings : Settings} {schemas : Schemas}
    (compiled : (datamodel.compile settings).outcome = .ok schemas) (view : View) :
    let pairs (model : Model) :=
      (view.contributions (datamodel.context settings) model).map fun (_, entry) => entry.pair
    let suffix (model : Model) := Annotation.optionsSuffix (annotationsOf model.documentation)
    (∀ text found rest, ObjectText.object view.values text = some (found, rest) →
      text = ObjectText.write found ++ rest) ∧
    schemas.rowsOf view =
      datamodel.models.filterMap (view.rowOf? (datamodel.context settings)) ∧
    ∀ model ∈ datamodel.models, model.IsLegible → ∀ row,
      view.rowOf? (datamodel.context settings) model = some row →
        ObjectText.object view.values row.expression = some (pairs model, suffix model) := by
  intro pairs suffix
  refine ⟨fun _ _ _ found => ObjectText.object_sound found,
    rowsOf_compile datamodel settings compiled view, ?_⟩
  intro model _ legible row given
  obtain ⟨doc, documented, _, _, rfl⟩ :=
    (view.rowOf_eq_some (datamodel.context settings) model).mp given
  have text : Entry.object
      ((view.contributions (datamodel.context settings) model).map Prod.snd) doc.annotations =
        ObjectText.write (pairs model) ++ suffix model := by
    rw [Entry.object_eq_write, List.map_map, Documentation.read_annotations documented]
    rfl
  rw [text]
  apply ObjectText.object_write
  intro pair member
  obtain ⟨⟨field, entry⟩, contributed, rfl⟩ := List.mem_map.mp member
  obtain ⟨other, present, made⟩ := List.mem_filterMap.mp contributed
  obtain ⟨_, given, same⟩ := Option.map_eq_some_iff.mp made
  obtain ⟨rfl, rfl⟩ := Prod.mk.inj same
  exact View.entry_readable legible present given

theorem blog_rows_decode :
    ∃ schemas, (blog.compile Settings.standard).outcome = .ok schemas ∧
      ∃ post ∈ blog.models, post.IsLegible ∧
        ∃ row ∈ schemas.rowsOf .relationsUpdate, row.model = "Post" ∧
          ObjectText.object View.relationsUpdate.values row.expression =
            some ([("author?", "\x7b \"connect\": \x7b \"id\": \"number.integer\" \x7d \x7d")],
              ".pipe(narrow)") := by
  obtain ⟨schemas, compiled⟩ := blog_compiles
  let post := blog.models[1]
  have member : post ∈ blog.models := List.getElem_mem _
  have plain : ∀ field ∈ post.fields,
      (field.name.toList.all fun c => c != '\\' && c != '"') = true := by decide +kernel
  have legible : post.IsLegible :=
    ⟨fun field present => Definition.plain_of_all (plain field present), by decide +kernel⟩
  obtain ⟨_, rows, each⟩ := rows_decode compiled .relationsUpdate
  have present : (View.relationsUpdate.rowOf? (blog.context Settings.standard) post).map Row.model =
      some "Post" := by
    decide +kernel
  obtain ⟨row, given, named⟩ := Option.map_eq_some_iff.mp present
  refine ⟨schemas, compiled, post, member, legible, row, ?_, named, ?_⟩
  · rw [rows]
    exact List.mem_filterMap.mpr ⟨post, member, given⟩
  · rw [each post member legible row given]
    decide +kernel

end Datamodel
end ModelViews
