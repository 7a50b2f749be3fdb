import Mathlib.Data.List.Chain
import ModelViews.Proofs.KeptModules
import ModelViews.Proofs.ModuleText

namespace ModelViews

/-- Neither blanks nor quotes are in a name. Identifiers are such names. -/
def Text.IsPlainName (name : String) : Prop :=
  ' ' ∉ name.toList ∧ '"' ∉ name.toList

private theorem Text.plainName_of_identifier {name : String}
    (identifies : isIdentifier name = true) :
    IsPlainName name :=
  ⟨not_mem_of_identifier (by decide +kernel) (by decide +kernel) identifies,
    not_mem_of_identifier (by decide +kernel) (by decide +kernel) identifies⟩

private theorem SourceModule.plain_viewName {model : String} (plain : Text.IsPlainName model)
    (view : View) :
    Text.IsPlainName (viewName model view) := by
  have each : ∀ view ∈ View.all, ' ' ∉ view.name.toList ∧ '"' ∉ view.name.toList := by decide +kernel
  obtain ⟨noBlank, noQuote⟩ := each view view.mem_all
  rw [Text.IsPlainName, viewName, String.toList_append, List.mem_append, List.mem_append]
  exact ⟨not_or.mpr ⟨plain.1, noBlank⟩, not_or.mpr ⟨plain.2, noQuote⟩⟩

private theorem SourceModule.length_lt_viewName (model : String) (view : View) :
    model.length < (viewName model view).length := by
  have each : ∀ view ∈ View.all, 0 < view.name.length := by decide +kernel
  have long := each view view.mem_all
  rw [viewName, String.length_append]
  omega

namespace Schemas

variable {schemas : Schemas} {settings : Settings} {name : String} {source : SourceModule}

/-- Schemas whose enums and models have names without blanks and quotes. -/
structure HasPlainNames (schemas : Schemas) : Prop where
  enums : ∀ enum ∈ schemas.enums, Text.IsPlainName enum.name
  models : ∀ view, ∀ row ∈ schemas.rowsOf view, Text.IsPlainName row.model

private theorem mem_rendered_of_enum {enum : CompiledEnum} (member : enum ∈ schemas.enums) :
    .ofEnum enum ∈ schemas.rendered :=
  List.mem_append_left _ (List.mem_map_of_mem member)

private theorem mem_rendered_of_combined {row : Row} (member : row ∈ schemas.rowsOf .plain) :
    .combined row.model (schemas.hasRelations row.model) ∈ schemas.rendered := by
  refine List.mem_append_right _ (List.mem_flatMap.mpr ⟨.plain, View.plain.mem_all, ?_⟩)
  exact List.mem_append_right _ (List.mem_map.mpr ⟨row, member, rfl⟩)

private theorem mem_rendered : source ∈ schemas.rendered ↔
    (∃ enum ∈ schemas.enums, source = .ofEnum enum) ∨
      (∃ view, ∃ row ∈ schemas.rowsOf view, source = .ofRow view row) ∨
      ∃ row ∈ schemas.rowsOf .plain, source = .combined row.model (schemas.hasRelations row.model) := by
  constructor
  · intro member
    rcases List.mem_append.mp member with inEnums | inViews
    · obtain ⟨enum, inside, rfl⟩ := List.mem_map.mp inEnums
      exact .inl ⟨enum, inside, rfl⟩
    · obtain ⟨view, _, inView⟩ := List.mem_flatMap.mp inViews
      rcases List.mem_append.mp inView with inRows | inCombined
      · obtain ⟨row, inside, rfl⟩ := List.mem_map.mp inRows
        exact .inr (.inl ⟨view, row, inside, rfl⟩)
      · split at inCombined
        · obtain ⟨row, inside, rfl⟩ := List.mem_map.mp inCombined
          exact .inr (.inr ⟨row, inside, rfl⟩)
        · cases inCombined
  · rintro (⟨enum, inside, rfl⟩ | ⟨view, row, inside, rfl⟩ | ⟨row, inside, rfl⟩)
    · exact mem_rendered_of_enum inside
    · exact mem_rendered_of_row inside
    · exact mem_rendered_of_combined inside

private theorem hasRelations_iff {model : String} :
    schemas.hasRelations model = true ↔ ∃ row ∈ schemas.rowsOf .relations, row.model = model := by
  simp [hasRelations]

private theorem of_mem_modules (member : (name, source) ∈ schemas.modules) :
    source ∈ schemas.rendered ∧ source.name = name := by
  rcases Keyed.of_mem_putAll member with put | old
  · obtain ⟨rendered, inside, same⟩ := List.mem_map.mp put
    obtain ⟨rfl, rfl⟩ := Prod.mk.inj same
    exact ⟨inside, rfl⟩
  · cases old

private theorem mem_moduleNames :
    name ∈ schemas.modules.map Prod.fst ↔ ∃ source ∈ schemas.rendered, source.name = name := by
  rw [modules, Keyed.ofPairs, Keyed.mem_keys_putAll, List.map_map]
  simp

private theorem moduleNames_nodup (schemas : Schemas) : (schemas.modules.map Prod.fst).Nodup := by
  have empty : (([] : List (String × SourceModule)).map Prod.fst).Nodup := List.nodup_nil
  exact Keyed.keys_putAll_nodup empty _

private theorem mem_imports_combined {model other : String} {related : Bool} :
    other ∈ (SourceModule.combined model related).imports ↔
      other = SourceModule.viewName model .plain ∨
        related = true ∧ other = SourceModule.viewName model .relations := by
  cases related <;> simp [SourceModule.imports]

private theorem imports_rendered (rendered : source ∈ schemas.rendered) {other : String}
    (brings : other ∈ source.imports) : ∃ found ∈ schemas.rendered, found.name = other := by
  rcases mem_rendered.mp rendered with ⟨enum, _, rfl⟩ | ⟨view, row, _, rfl⟩ | ⟨row, shown, rfl⟩
  · cases brings
  · cases brings
  · rcases mem_imports_combined.mp brings with rfl | ⟨related, rfl⟩
    · exact ⟨_, mem_rendered_of_row shown, rfl⟩
    · obtain ⟨relation, inside, same⟩ := hasRelations_iff.mp related
      exact ⟨_, mem_rendered_of_row inside, congrArg (SourceModule.viewName · .relations) same⟩

private theorem imports_longer (rendered : source ∈ schemas.rendered) {other : String}
    (brings : other ∈ source.imports) : source.name.length < other.length := by
  rcases mem_rendered.mp rendered with ⟨enum, _, rfl⟩ | ⟨view, row, _, rfl⟩ | ⟨row, shown, rfl⟩
  · cases brings
  · cases brings
  · rcases mem_imports_combined.mp brings with rfl | ⟨_, rfl⟩
    · exact SourceModule.length_lt_viewName row.model .plain
    · exact SourceModule.length_lt_viewName row.model .relations

private theorem plain_of_rendered (plain : schemas.HasPlainNames)
    (rendered : source ∈ schemas.rendered) :
    ∀ name ∈ source.name :: source.imports, Text.IsPlainName name := by
  have own {found : SourceModule} (member : found ∈ schemas.rendered) :
      Text.IsPlainName found.name := by
    rcases mem_rendered.mp member with ⟨enum, inside, rfl⟩ | ⟨view, row, inside, rfl⟩ | ⟨row, shown, rfl⟩
    · exact plain.enums enum inside
    · exact SourceModule.plain_viewName (plain.models view row inside) view
    · exact plain.models .plain row shown
  refine List.forall_mem_cons.mpr ⟨own rendered, fun other brings => ?_⟩
  obtain ⟨found, member, rfl⟩ := imports_rendered rendered brings
  exact own member

/-- What the module under a name of the files reads as, behind its first line. -/
def Reads (schemas : Schemas) (settings : Settings) (name : String) (content : ModuleText) : Prop :=
  ∃ text, (schemas.files settings).lookup name = some text ∧
    ModuleText.behindHeader settings.importName text = some content

def Brings (schemas : Schemas) (settings : Settings) (first second : String) : Prop :=
  ∃ content, schemas.Reads settings first content ∧ Import.beside second ∈ content.imports

private theorem moduleNames_files :
    (schemas.files settings).map Prod.fst = schemas.modules.map Prod.fst := by
  rw [files, List.map_map]
  rfl

private theorem reads_iff (plain : schemas.HasPlainNames) {content : ModuleText} :
    schemas.Reads settings name content ↔
      ∃ source, (name, source) ∈ schemas.modules ∧ content = source.content := by
  constructor
  · rintro ⟨text, found, read⟩
    rw [files, Keyed.lookup_map_values] at found
    obtain ⟨source, under, rfl⟩ := Option.map_eq_some_iff.mp found
    have member := (Keyed.lookup_eq_some schemas.moduleNames_nodup).mp under
    rw [SourceModule.read_text (plain_of_rendered plain (of_mem_modules member).1)] at read
    exact ⟨source, member, (Option.some.inj read).symm⟩
  · rintro ⟨source, member, rfl⟩
    refine ⟨source.text settings.importName, ?_,
      SourceModule.read_text (plain_of_rendered plain (of_mem_modules member).1) _⟩
    rw [files, Keyed.lookup_map_values, (Keyed.lookup_eq_some schemas.moduleNames_nodup).mpr member]
    rfl

private theorem brings_iff (plain : schemas.HasPlainNames) {first second : String} :
    schemas.Brings settings first second ↔
      ∃ source, (first, source) ∈ schemas.modules ∧ second ∈ source.imports := by
  constructor
  · rintro ⟨content, reads, brought⟩
    obtain ⟨source, member, rfl⟩ := (reads_iff plain).mp reads
    obtain ⟨other, brings, beside⟩ := List.mem_map.mp brought
    obtain rfl : other = second := congrArg Import.binding beside
    exact ⟨source, member, brings⟩
  · rintro ⟨source, member, brings⟩
    exact ⟨source.content, (reads_iff plain).mpr ⟨source, member, rfl⟩, List.mem_map_of_mem brings⟩

private theorem brings_longer (plain : schemas.HasPlainNames) {first second : String}
    (brings : schemas.Brings settings first second) : first.length < second.length := by
  obtain ⟨source, member, brought⟩ := (brings_iff plain).mp brings
  obtain ⟨rendered, rfl⟩ := of_mem_modules member
  exact imports_longer rendered brought

private theorem way_nodup (plain : schemas.HasPlainNames) {way : List String}
    (follows : way.IsChain (schemas.Brings settings)) : way.Nodup := by
  have longer : way.IsChain fun first second => first.length < second.length :=
    follows.imp fun first second brings => brings_longer plain brings
  have apart : way.Pairwise fun first second => first.length < second.length := by
    have : IsTrans String fun first second => first.length < second.length :=
      ⟨fun _ _ _ => Nat.lt_trans⟩
    exact longer.pairwise
  exact apart.imp fun shorter same => absurd (same ▸ shorter) (Nat.lt_irrefl _)

def BringsRightly (schemas : Schemas) (name : String) (content : ModuleText) : SourceModule → Prop
  | .ofEnum _ => content.imports = []
  | .ofRow _ _ => content.imports = []
  | .combined _ _ =>
    content.imports = [.beside (name ++ "Plain"), .beside (name ++ "Relations")] ∧
        (∃ row ∈ schemas.rowsOf .relations, row.model = name) ∨
      content.imports = [.beside (name ++ "Plain")] ∧
        ∀ row ∈ schemas.rowsOf .relations, row.model ≠ name

private theorem content_bringsRightly (rendered : source ∈ schemas.rendered) :
    schemas.BringsRightly source.name source.content source := by
  rcases mem_rendered.mp rendered with ⟨enum, _, rfl⟩ | ⟨view, row, _, rfl⟩ | ⟨row, shown, rfl⟩
  · rfl
  · rfl
  · cases related : schemas.hasRelations row.model with
    | true => exact .inl ⟨rfl, hasRelations_iff.mp related⟩
    | false =>
        refine .inr ⟨rfl, fun relation inside same => ?_⟩
        have some : schemas.hasRelations row.model = true :=
          hasRelations_iff.mpr ⟨relation, inside, same⟩
        rw [related] at some
        cases some

/-- Behind its first line, which brings the validators from where the settings say, each module of a run
exports one name, its own. Only combined modules bring anything there: the plain view of their model, and
its relations exactly if it has some. What is brought is a module of the run that exports the name, and no
way along imports comes twice to a module. The barrel exports each module again, once and in the order in
which they are written. -/
theorem modules_hang_together (plain : schemas.HasPlainNames) (settings : Settings) :
    let names := (schemas.files settings).map Prod.fst
    (∀ name ∈ names, ∃ source content, (name, source) ∈ schemas.modules ∧
      schemas.Reads settings name content ∧ content.exported = name ∧
        content.definition = source.expression ∧ schemas.BringsRightly name content source) ∧
    (∀ first second, schemas.Brings settings first second → second ∈ names ∧
      ∃ content, schemas.Reads settings second content ∧ content.exported = second) ∧
    (∀ way : List String, way.IsChain (schemas.Brings settings) → way.Nodup) ∧
    readBarrel (barrelText names).toList = some names ∧ names.Nodup ∧
    ∀ tree paths, (schemas.publish settings tree).outcome = .ok paths →
      paths = (names ++ ["index"]).map (Published.modulePath settings.output) := by
  intro names
  have same : names = schemas.modules.map Prod.fst := moduleNames_files
  have each (name : String) (member : name ∈ names) : ∃ source, (name, source) ∈ schemas.modules ∧
      source ∈ schemas.rendered ∧ source.name = name ∧
        schemas.Reads settings name source.content := by
    rw [same] at member
    obtain ⟨⟨_, source⟩, under, rfl⟩ := List.mem_map.mp member
    obtain ⟨rendered, named⟩ := of_mem_modules under
    exact ⟨source, under, rendered, named, (reads_iff plain).mpr ⟨source, under, rfl⟩⟩
  refine ⟨?_, ?_, fun way follows => way_nodup plain follows, ?_, ?_, ?_⟩
  · intro name member
    obtain ⟨source, under, rendered, rfl, reads⟩ := each name member
    exact ⟨source, source.content, under, reads, rfl, rfl, content_bringsRightly rendered⟩
  · intro first second brings
    obtain ⟨source, under, brought⟩ := (brings_iff plain).mp brings
    have member : second ∈ names := by
      rw [same, mem_moduleNames]
      exact imports_rendered (of_mem_modules under).1 brought
    obtain ⟨found, _, _, named, reads⟩ := each second member
    exact ⟨member, found.content, reads, named⟩
  · refine readBarrel_barrelText fun name member => ?_
    obtain ⟨source, _, rendered, rfl, _⟩ := each name member
    exact (plain_of_rendered plain rendered source.name List.mem_cons_self).2
  · rw [same]
    exact schemas.moduleNames_nodup
  · intro tree paths published
    obtain ⟨_, _, listed, _⟩ := Published.publish_ok published
    exact listed

/-- A model with relations, and an enum and a model that are both named like its plain view. -/
def namesakes : Schemas where
  enums := [⟨"UserPlain", "type(\"'A'\")", "'A'"⟩]
  views := [(.plain, [⟨"User", "\x7b\x7d"⟩, ⟨"UserPlain", "\x7b\x7d"⟩]),
    (.relations, [⟨"User", "\x7b\x7d"⟩])]

/-- Of three modules with one name the combined one stays. It is brought in place of the plain view, and
brings a plain view of its own. -/
theorem namesakes_hang_together :
    let way := ["User", "UserPlain", "UserPlainPlain"]
    let names := (namesakes.files Settings.standard).map Prod.fst
    namesakes.HasPlainNames ∧ way.IsChain (namesakes.Brings Settings.standard) ∧ way.Nodup ∧
      names = ["UserPlain", "UserPlainPlain", "User", "UserRelations"] ∧
      readBarrel (barrelText names).toList = some names := by
  intro way names
  have plain : namesakes.HasPlainNames := by
    have enums : ∀ enum ∈ namesakes.enums, Text.isIdentifier enum.name = true := by decide +kernel
    have models : ∀ view ∈ View.all, ∀ row ∈ namesakes.rowsOf view,
        Text.isIdentifier row.model = true := by decide +kernel
    exact ⟨fun enum inside => Text.plainName_of_identifier (enums enum inside),
      fun view row inside => Text.plainName_of_identifier (models view view.mem_all row inside)⟩
  have combined : namesakes.Brings Settings.standard "User" "UserPlain" :=
    (brings_iff plain).mpr ⟨.combined "User" true, by decide +kernel, by decide +kernel⟩
  have again : namesakes.Brings Settings.standard "UserPlain" "UserPlainPlain" :=
    (brings_iff plain).mpr ⟨.combined "UserPlain" false, by decide +kernel, by decide +kernel⟩
  have follows : way.IsChain (namesakes.Brings Settings.standard) :=
    .cons_cons combined (.cons_cons again (.singleton _))
  obtain ⟨_, _, ways, barrel, _⟩ := modules_hang_together plain Settings.standard
  refine ⟨plain, follows, ways way follows, ?_, barrel⟩
  exact moduleNames_files.trans (by decide +kernel)

def shadowed : Schemas where
  enums := [⟨"Mood", "type(\"'CALM'\")", "'CALM'"⟩]

/-- Validators from a module beside the others make an enum bring a module from beside itself, and here
itself. -/
theorem enum_brings_itself :
    let settings : Settings := { Settings.standard with importName := "./Mood" }
    (∀ enum ∈ shadowed.enums, Text.isIdentifier enum.name = true) ∧ shadowed.views = [] ∧
      shadowed.modules.map Prod.fst = ["Mood"] ∧
      ∃ text content, (shadowed.files settings).lookup "Mood" = some text ∧
        ModuleText.read text.toList = some content ∧ content.exported = "Mood" ∧
        content.imports = [⟨"type", "./Mood"⟩] := by
  intro settings
  let source : SourceModule := .ofEnum ⟨"Mood", "type(\"'CALM'\")", "'CALM'"⟩
  have plain : ∀ name ∈ source.name :: source.imports, ' ' ∉ name.toList ∧ '"' ∉ name.toList := by
    decide +kernel
  have noQuote : '"' ∉ settings.importName.toList := by decide +kernel
  refine ⟨by decide +kernel, rfl, by decide +kernel, source.text settings.importName, _, rfl,
    SourceModule.read_whole plain noQuote, rfl, rfl⟩

end Schemas
end ModelViews
