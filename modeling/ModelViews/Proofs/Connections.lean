import ModelViews.Proofs.HiddenParts

namespace ModelViews

open Documentation (carries)
open ObjectText (behind? behind_eq_some between between_sound)

namespace Relation

/-- What a member of a change is given: one record or several, by the definition of their identity,
or what a definition of its own describes. -/
inductive Operand where
  | record (identity : String)
  | records (identity : String)
  | value (definition : String)
  deriving DecidableEq, Repr

structure Member where
  name : String
  isOptional : Bool
  operand : Operand
  deriving DecidableEq, Repr

def writeQuoted (text : String) : String :=
  "\"" ++ text ++ "\""

def writeRecord (identity : String) (several : Bool) : String :=
  "\x7b \"id\": " ++ writeQuoted identity ++ if several then " \x7d[]" else " \x7d"

def Operand.write : Operand → String
  | record identity => writeRecord identity false
  | records identity => writeRecord identity true
  | value definition => writeQuoted definition

def Member.write (member : Member) : String :=
  writeQuoted member.name ++ (if member.isOptional then "?: " else ": ") ++ member.operand.write

def writeChange (members : List Member) : String :=
  "\x7b " ++ ", ".intercalate (members.map Member.write) ++ " \x7d"

def readQuoted (text : List Char) : Option (String × List Char) :=
  (between '"' text).map fun (inside, rest) => (String.ofList inside, rest)

def readEither (first second : String) (text : List Char) : Option (Bool × List Char) :=
  match behind? first text with
  | some rest => some (true, rest)
  | none => (behind? second text).map (false, ·)

def readOperand (text : List Char) : Option (Operand × List Char) :=
  match behind? "\x7b \"id\": " text with
  | none => (readQuoted text).map fun (definition, rest) => (.value definition, rest)
  | some inside =>
    (readQuoted inside).bind fun (identity, closing) =>
      (readEither " \x7d[]" " \x7d" closing).map fun (several, rest) =>
        (if several then .records identity else .record identity, rest)

def readMember (text : List Char) : Option (Member × List Char) :=
  (readQuoted text).bind fun (name, afterName) =>
    (readEither "?: " ": " afterName).bind fun (isOptional, afterColon) =>
      (readOperand afterColon).map fun (operand, rest) => (⟨name, isOptional, operand⟩, rest)

def readChange (text : String) : Option (List Member) :=
  (behind? "\x7b " text.toList).bind fun inside =>
    (readMember inside).bind fun (first, afterFirst) =>
      match behind? ", " afterFirst with
      | none => if afterFirst = " \x7d".toList then some [first] else none
      | some others =>
        (readMember others).bind fun (second, afterSecond) =>
          if afterSecond = " \x7d".toList then some [first, second] else none

private theorem readQuoted_sound {text rest : List Char} {inside : String}
    (found : readQuoted text = some (inside, rest)) :
    text = (writeQuoted inside).toList ++ rest := by
  simp only [readQuoted, Option.map_eq_some_iff, Prod.exists, Prod.mk.injEq] at found
  obtain ⟨inner, _, quotes, rfl, rfl⟩ := found
  rw [(between_sound quotes).1]
  simp [writeQuoted]

private theorem readEither_sound {first second : String} {text rest : List Char} {isFirst : Bool}
    (found : readEither first second text = some (isFirst, rest)) :
    text = (if isFirst then first else second).toList ++ rest := by
  rw [readEither] at found
  split at found
  · rename_i after isThere
    simp only [Option.some.injEq, Prod.mk.injEq] at found
    obtain ⟨rfl, rfl⟩ := found
    exact behind_eq_some.mp isThere
  · simp only [Option.map_eq_some_iff, Prod.mk.injEq] at found
    obtain ⟨_, isThere, rfl, rfl⟩ := found
    exact behind_eq_some.mp isThere

private theorem readOperand_sound {text rest : List Char} {operand : Operand}
    (found : readOperand text = some (operand, rest)) :
    text = operand.write.toList ++ rest := by
  rw [readOperand] at found
  split at found
  · simp only [Option.map_eq_some_iff, Prod.exists, Prod.mk.injEq] at found
    obtain ⟨_, _, quotes, rfl, rfl⟩ := found
    exact readQuoted_sound quotes
  · rename_i inside opened
    simp only [Option.bind_eq_some_iff, Option.map_eq_some_iff, Prod.exists,
      Prod.mk.injEq] at found
    obtain ⟨identity, _, quotes, several, _, closed, rfl, rfl⟩ := found
    rw [behind_eq_some.mp opened, readQuoted_sound quotes, readEither_sound closed]
    cases several <;> simp [Operand.write, writeRecord]

private theorem readMember_sound {text rest : List Char} {member : Member}
    (found : readMember text = some (member, rest)) :
    text = member.write.toList ++ rest := by
  simp only [readMember, Option.bind_eq_some_iff, Option.map_eq_some_iff, Prod.exists,
    Prod.mk.injEq] at found
  obtain ⟨name, _, quotes, isOptional, _, colon, operand, _, given, rfl, rfl⟩ := found
  rw [readQuoted_sound quotes, readEither_sound colon, readOperand_sound given]
  simp [Member.write]

private theorem readChange_sound {text : String} {members : List Member}
    (found : readChange text = some members) : text = writeChange members := by
  simp only [readChange, Option.bind_eq_some_iff, Prod.exists] at found
  obtain ⟨inside, opened, first, afterFirst, one, found⟩ := found
  rw [← String.toList_inj, behind_eq_some.mp opened, readMember_sound one]
  split at found
  · split at found
    · rename_i closed
      cases found
      rw [closed]
      simp [writeChange]
    · cases found
  · rename_i others separated
    simp only [Option.bind_eq_some_iff, Prod.exists] at found
    obtain ⟨second, _, another, found⟩ := found
    split at found
    · rename_i closed
      cases found
      rw [behind_eq_some.mp separated, readMember_sound another, closed]
      simp [writeChange, String.intercalate_cons_cons]
    · cases found

def IsIdentity (identity : String) : Prop :=
  identity = "number.integer" ∨ identity = "string"

variable {identity : String}

private theorem readChange_connect (known : IsIdentity identity) :
    readChange (connect (writeQuoted identity)) =
      some [⟨"connect", false, .record identity⟩] := by
  rcases known with rfl | rfl <;> rfl

private theorem readChange_list (known : IsIdentity identity) :
    readChange (changeList (writeQuoted identity)) =
      some [⟨"connect", true, .records identity⟩,
        ⟨"disconnect", true, .records identity⟩] := by
  rcases known with rfl | rfl <;> rfl

private theorem readChange_optional (known : IsIdentity identity) :
    readChange (changeOptional (writeQuoted identity)) =
      some [⟨"connect", true, .record identity⟩,
        ⟨"disconnect", true, .value "boolean"⟩] := by
  rcases known with rfl | rfl <;> rfl

end Relation

def Model.IsIntegerKeyed (model : Model) : Prop :=
  ∃ before key after, model.fields = before ++ key :: after ∧
    (∀ earlier ∈ before, earlier.isId = false) ∧ key.isId = true ∧
      (key.type = "Int" ∨ key.type = "BigInt")

/-- A name of which the first model is one whose first identifying field is an integer. -/
def Datamodel.IsIntegerKeyed (datamodel : Datamodel) (name : String) : Prop :=
  ∃ before target after, datamodel.models = before ++ target :: after ∧
    (∀ earlier ∈ before, earlier.name ≠ name) ∧ target.name = name ∧ target.IsIntegerKeyed

private theorem Model.hasIntegerId_iff (model : Model) :
    model.hasIntegerId = true ↔ model.IsIntegerKeyed := by
  rw [hasIntegerId, IsIntegerKeyed]
  constructor
  · intro integer
    split at integer
    · rename_i key found
      obtain ⟨isId, before, after, fields, none⟩ := List.find?_eq_some_iff_append.mp found
      exact ⟨before, key, after, fields, by simpa using none, isId, by simpa using integer⟩
    · cases integer
  · rintro ⟨before, key, after, fields, none, isId, integer⟩
    have found : model.fields.find? Field.isId = some key :=
      List.find?_eq_some_iff_append.mpr ⟨isId, before, after, fields, by simpa using none⟩
    simpa [found] using integer

private theorem Datamodel.integerKeyed_iff (datamodel : Datamodel) (name : String) :
    datamodel.IsIntegerKeyed name ↔
      ∃ target, model? datamodel.models name = some target ∧ target.hasIntegerId = true := by
  simp only [IsIntegerKeyed, model?, List.find?_eq_some_iff_append, decide_eq_true_eq,
    Bool.not_eq_true', decide_eq_false_iff_not, Model.hasIntegerId_iff]
  constructor
  · rintro ⟨before, target, after, models, none, named, integer⟩
    exact ⟨target, ⟨named, before, after, models, none⟩, integer⟩
  · rintro ⟨target, ⟨named, before, after, models, none⟩, integer⟩
    exact ⟨before, target, after, models, none, named, integer⟩

/-- Of each name there is one identity, and each look-up gives its literal. -/
theorem Datamodel.identity_unique (datamodel : Datamodel) (name : String) :
    ∃ identity, Relation.IsIdentity identity ∧
      (identity = "number.integer" ↔ datamodel.IsIntegerKeyed name) ∧
      ∀ literal, Relation.identity? datamodel.models name = some literal →
        literal = Relation.writeQuoted identity := by
  rw [integerKeyed_iff, Relation.identity?]
  cases model? datamodel.models name with
  | none => exact ⟨"string", .inr rfl, by simp, by simp⟩
  | some target =>
      cases integer : target.hasIntegerId with
      | true => exact ⟨"number.integer", .inl rfl, by simp [integer], by simp [integer]; rfl⟩
      | false => exact ⟨"string", .inr rfl, by simp [integer], by simp [integer]; rfl⟩

namespace View

variable {context : Context} {model : Model} {field : Field}

private theorem relationInput_keys
    (neither : field.kind = .object → carries .hiddenCreate field.documentation = false ∧
      carries .hiddenUpdate field.documentation = false) :
    (relationsCreate.entryOf? context model field).map
        (fun entry => (field, entry.key, entry.isOptional)) =
      (relationsUpdate.entryOf? context model field).map
        fun entry => (field, entry.key, entry.isOptional) := by
  rw [entryOf?, entryOf?, choose, choose]
  cases documented : Documentation.read field.documentation with
  | error error => rfl
  | ok doc =>
      have admitted : relationsCreate.admits context model field doc =
          relationsUpdate.admits context model field doc := by
        by_cases relation : field.kind = .object
        · obtain ⟨creates, updates⟩ := neither relation
          simp only [admits, hidesInput, Documentation.hides_eq_carries documented, creates,
            updates]
        · simp only [admits, relation, decide_false, Bool.and_false]
      simp only [admitted, entry, inputEntry]
      cases doc.hidden || !relationsUpdate.admits context model field doc with
      | true => rfl
      | false => cases Relation.identity? context.models field.type <;> rfl

private theorem relationInput_contributions
    (neither : ∀ field ∈ model.fields, field.kind = .object →
      carries .hiddenCreate field.documentation = false ∧
        carries .hiddenUpdate field.documentation = false) :
    (relationsCreate.contributions context model).map
        (fun (field, entry) => (field, entry.key, entry.isOptional)) =
      (relationsUpdate.contributions context model).map
        fun (field, entry) => (field, entry.key, entry.isOptional) := by
  rw [contributions, contributions, List.map_filterMap, List.map_filterMap]
  apply List.filterMap_congr
  intro field present
  rw [Option.map_map, Option.map_map]
  exact relationInput_keys (neither field present)

private theorem relationInput_type {view : View} (writes : view ∈ relationInputs)
    {identity : String}
    (unique : ∀ literal, Relation.identity? context.models field.type = some literal →
      literal = Relation.writeQuoted identity)
    {entry : Entry} (contributed : (field, entry) ∈ view.contributions context model) :
    entry.type = view.written field (Relation.writeQuoted identity) := by
  obtain ⟨_, given⟩ := (mem_contributions _ _ _ _).mp contributed
  obtain ⟨_, literal, found, rfl⟩ := (entry_written writes).mp given
  rw [unique literal found]

end View

namespace Datamodel

variable {datamodel : Datamodel} {settings : Settings} {schemas : Schemas}

/-- The inputs of relations are coherent. Of each name there is one identity, an integer exactly if
the first model of that name is keyed by one, and every relation that leads there is created and
updated by this identity: a created relation is connected to one record; an updated list is connected
to and disconnected from several; an updated relation that may be missing is connected to one record
or disconnected; one that may not be missing is updated as it is created. Where no relation of a model
is kept out of creates or updates alone, both have the same keys. -/
theorem connections_coherent (compiled : (datamodel.compile settings).outcome = .ok schemas) :
    let entries (view : View) (model : Model) :=
      view.contributions (datamodel.context settings) model
    (∀ view, schemas.rowsOf view = datamodel.models.filterMap fun model =>
      view.rowOfEntries? model ((entries view model).map Prod.snd)) ∧
    (∀ view, ∀ model ∈ datamodel.models, carries .hidden model.documentation = false →
      (entries view model).map Prod.fst =
        model.fields.filter (view.emits datamodel settings model)) ∧
    (∀ text members,
      Relation.readChange text = some members → text = Relation.writeChange members) ∧
    (∀ name, ∃ identity,
      (datamodel.IsIntegerKeyed name → identity = "number.integer") ∧
      (¬ datamodel.IsIntegerKeyed name → identity = "string") ∧
      ∀ model ∈ datamodel.models, ∀ field entry, field.type = name →
        ((field, entry) ∈ entries .relationsCreate model →
          Relation.readChange entry.type = some [⟨"connect", false, .record identity⟩]) ∧
        ((field, entry) ∈ entries .relationsUpdate model →
          (field.isList = true →
            Relation.readChange entry.type = some [⟨"connect", true, .records identity⟩,
              ⟨"disconnect", true, .records identity⟩]) ∧
          (field.isList = false → field.isRequired = false →
            Relation.readChange entry.type = some [⟨"connect", true, .record identity⟩,
              ⟨"disconnect", true, .value "boolean"⟩]) ∧
          (field.isList = false → field.isRequired = true →
            Relation.readChange entry.type = some [⟨"connect", false, .record identity⟩] ∧
            ∀ created, (field, created) ∈ entries .relationsCreate model →
              entry.type = created.type))) ∧
    ∀ model ∈ datamodel.models,
      (∀ field ∈ model.fields, field.kind = .object →
        carries .hiddenCreate field.documentation = false ∧
          carries .hiddenUpdate field.documentation = false) →
      let keys (view : View) :=
        (entries view model).map fun (field, entry) => (field, entry.key, entry.isOptional)
      keys .relationsCreate = keys .relationsUpdate := by
  intro entries
  refine ⟨rowsOf_entries compiled,
    fun view model member shown => contributions_emitted compiled view member shown,
    fun _ _ found => Relation.readChange_sound found, ?_,
    fun _ _ neither => View.relationInput_contributions neither⟩
  intro name
  obtain ⟨identity, known, integer, unique⟩ := datamodel.identity_unique name
  refine ⟨identity, integer.mpr, fun other => known.resolve_left (mt integer.mp other), ?_⟩
  rintro model _ field entry rfl
  have created {entry : Entry} (contributed : (field, entry) ∈ entries .relationsCreate model) :
      entry.type = Relation.connect (Relation.writeQuoted identity) :=
    View.relationInput_type (by decide) unique contributed
  have updated (contributed : (field, entry) ∈ entries .relationsUpdate model) :
      entry.type = Relation.change field (Relation.writeQuoted identity) :=
    View.relationInput_type (by decide) unique contributed
  refine ⟨?_, ?_⟩
  · intro contributed
    rw [created contributed]
    exact Relation.readChange_connect known
  · intro contributed
    rw [updated contributed]
    refine ⟨?_, ?_, ?_⟩
    · intro isList
      rw [Relation.change, if_pos isList]
      exact Relation.readChange_list known
    · intro single optional
      rw [Relation.change, single, optional]
      exact Relation.readChange_optional known
    · intro single required
      rw [Relation.change, single, required]
      exact ⟨Relation.readChange_connect known, fun _ other => (created other).symm⟩

/-- Employees with managers and reports of their own kind, and teams that they lead. There are two
models of the name `Team`: the first is keyed by a number, whatever its second identifying field is. -/
def company : Datamodel where
  models := [
    { name := "Employee",
      fields := [
        { name := "email", kind := .scalar, type := "String", isId := true },
        { name := "manager", kind := .object, type := "Employee", isRequired := false },
        { name := "reports", kind := .object, type := "Employee", isList := true },
        { name := "team", kind := .object, type := "Team" }] },
    { name := "Team",
      fields := [
        { name := "number", kind := .scalar, type := "BigInt", isId := true },
        { name := "code", kind := .scalar, type := "String", isId := true },
        { name := "lead", kind := .object, type := "Employee",
          documentation := some "@prisma-arktype.update.input.hide" }] },
    { name := "Team",
      fields := [
        { name := "code", kind := .scalar, type := "String", isId := true },
        { name := "parent", kind := .object, type := "Team", isRequired := false }] }]

theorem company_connections :
    ∃ schemas, (company.compile Settings.standard).outcome = .ok schemas ∧
      let entries (view : View) (model : Model) :=
        view.contributions (company.context Settings.standard) model
      ∃ employee ∈ company.models, employee.name = "Employee" ∧
        (∃ team entry, (team, entry) ∈ entries .relationsUpdate employee ∧ team.type = "Team" ∧
          Relation.readChange entry.type = some [⟨"connect", false, .record "number.integer"⟩]) ∧
        (entries .relationsCreate employee).map
            (fun (field, entry) => (field, entry.key, entry.isOptional)) =
          (entries .relationsUpdate employee).map
            fun (field, entry) => (field, entry.key, entry.isOptional) := by
  have compiles : ∃ schemas, (company.compile Settings.standard).outcome = .ok schemas := by
    rw [← errorOf_eq_none, compile_fault_sites]
    decide +kernel
  obtain ⟨schemas, compiled⟩ := compiles
  let employee := company.models[0]
  let team := employee.fields[3]
  have member : employee ∈ company.models := List.getElem_mem _
  obtain ⟨_, _, _, each, keys⟩ := connections_coherent compiled
  obtain ⟨identity, integer, _, reads⟩ := each "Team"
  have keyed : company.IsIntegerKeyed "Team" :=
    ⟨[company.models[0]], company.models[1], [company.models[2]], rfl, by decide, rfl,
      [], _, _, rfl, by simp, rfl, .inr rfl⟩
  obtain rfl := integer keyed
  have contributes : ∃ entry, (team, entry) ∈
      View.relationsUpdate.contributions (company.context Settings.standard) employee := by
    have present : (View.relationsUpdate.entryOf? (company.context Settings.standard) employee
        team).isSome := by decide +kernel
    obtain ⟨entry, given⟩ := Option.isSome_iff_exists.mp present
    exact ⟨entry, (View.mem_contributions _ _ _ _).mpr ⟨List.getElem_mem _, given⟩⟩
  obtain ⟨entry, contributed⟩ := contributes
  obtain ⟨_, updated⟩ := reads employee member team entry rfl
  obtain ⟨_, _, required⟩ := updated contributed
  have neither : ∀ field ∈ employee.fields, field.kind = .object →
      carries .hiddenCreate field.documentation = false ∧
        carries .hiddenUpdate field.documentation = false := by
    decide +kernel
  exact ⟨schemas, compiled, employee, member, rfl,
    ⟨team, entry, contributed, rfl, (required rfl rfl).1⟩, keys employee member neither⟩

end Datamodel
end ModelViews
