import ModelViews.Command.Follow
import ModelViews.Proofs.Contributions
import ModelViews.Service.Request

namespace ModelViews

/-- Whether a run ends before it publishes: its settings cannot be resolved, its data model cannot be
read, or some view of it cannot be compiled. -/
def EndsEarly (settings : Except Failure Settings) (datamodel : Except Failure Datamodel) : Prop :=
  (∃ failure, settings = .error failure) ∨ (∃ failure, datamodel = .error failure) ∨
    ∃ chosen model view error, settings = .ok chosen ∧ datamodel = .ok model ∧
      (View.compile view (model.context chosen)).outcome = .error error

/-- What a run leaves behind that publishes schemas once, after it reported what compiling them did. -/
def Generated.once (compiled : List LogEntry) (schemas : Schemas) (published : Published) :
    Generated :=
  ⟨published.tree, compiled ++ published.log,
    (published.outcome.mapError .file).map fun paths => (schemas, paths)⟩

namespace Datamodel

variable {datamodel : Datamodel} {settings : Settings}

private theorem compile_fails_of_view {view : View} {error : AnnotationError}
    (fails : (view.compile (datamodel.context settings)).outcome = .error error) :
    ∃ first, (datamodel.compile settings).outcome = .error first := by
  rw [← errorOf_isSome, compile_fault, List.findSome?_isSome_iff]
  refine ⟨view, view.mem_all, ?_⟩
  rw [errorOf_isSome]
  exact ⟨error, fails⟩

private theorem generate_of_error {error : AnnotationError} (tree : Tree)
    (fails : (datamodel.compile settings).outcome = .error error) :
    datamodel.generate settings tree =
      ⟨tree, (datamodel.compile settings).log, .error (.directive error)⟩ := by
  simp only [generate, fails]

private theorem generate_of_ok {schemas : Schemas} (tree : Tree)
    (compiles : (datamodel.compile settings).outcome = .ok schemas) :
    datamodel.generate settings tree =
      .once (datamodel.compile settings).log schemas (schemas.publish settings tree) := by
  simp only [generate, compiles, Generated.once]
  cases (schemas.publish settings tree).outcome <;> rfl

end Datamodel

def Generated.staged (settings : Except Failure Settings) (datamodel : Except Failure Datamodel)
    (tree : Tree) : Generated :=
  match settings, datamodel with
  | .error failure, _ => ⟨tree, [], .error failure⟩
  | .ok _, .error failure => ⟨tree, [], .error failure⟩
  | .ok chosen, .ok model => model.generate chosen tree

namespace Generated

variable {settings : Except Failure Settings} {datamodel : Except Failure Datamodel}

private theorem staged_early (early : EndsEarly settings datamodel) (tree : Tree) :
    (staged settings datamodel tree).tree = tree ∧
      ∃ failure, (staged settings datamodel tree).outcome = .error failure := by
  cases settings with
  | error failure => exact ⟨rfl, failure, rfl⟩
  | ok chosen =>
      cases datamodel with
      | error failure => exact ⟨rfl, failure, rfl⟩
      | ok model =>
          obtain ⟨_, refused⟩ | ⟨_, refused⟩ | ⟨_, _, view, _, same, alike, fails⟩ := early
          · cases refused
          · cases refused
          · cases same
            cases alike
            obtain ⟨first, stops⟩ := Datamodel.compile_fails_of_view fails
            have stopped : staged (.ok chosen) (.ok model) tree =
                ⟨tree, (model.compile chosen).log, .error (.directive first)⟩ :=
              Datamodel.generate_of_error tree stops
            rw [stopped]
            exact ⟨rfl, _, rfl⟩

private theorem staged_once {chosen : Settings} {model : Datamodel} {schemas : Schemas}
    (compiles : (model.compile chosen).outcome = .ok schemas) (tree : Tree) :
    staged (.ok chosen) (.ok model) tree =
      once (model.compile chosen).log schemas (schemas.publish chosen tree) :=
  Datamodel.generate_of_ok tree compiles

end Generated

private theorem Service.generate_staged (params : Json) (tree : Tree) :
    Service.generate params tree =
      .staged (Service.settings params) (Service.datamodel params) tree := by
  rw [Service.generate, Service.inputs]
  cases Service.settings params with
  | error failure => rfl
  | ok chosen =>
      cases Service.datamodel params with
      | error failure => rfl
      | ok model => rfl

private theorem Tree.generate_staged (tree : Tree) (schema : Path) (settings : Settings)
    (limits : Json.Limits) :
    tree.generate schema settings limits =
      .staged (.ok settings) (tree.loadDatamodel schema.text limits) tree := by
  rw [Tree.generate]
  cases tree.loadDatamodel schema.text limits with
  | error failure => rfl
  | ok model => rfl

private theorem Tree.generate_once {tree : Tree} {schema : Path} {settings : Settings}
    {model : Datamodel}
    {schemas : Schemas} {limits : Json.Limits}
    (read : tree.loadDatamodel schema.text limits = .ok model)
    (compiles : (model.compile settings).outcome = .ok schemas) :
    tree.generate schema settings limits =
      .once (model.compile settings).log schemas (schemas.publish settings tree) := by
  rw [generate_staged, read]
  exact Generated.staged_once compiles tree

namespace Service

variable {σ ε : Type} {generator : Generator σ ε} {members : List (CodeText × Wire)}

theorem named_name (method : Method) : Method.named? (.str method.name) = some method := by
  cases method <;> decide +kernel

/-- A request to generate is answered by how its run ended. -/
theorem handle_generate (generator : Generator σ ε) (asks : methodOf members = .str "generate")
    (state : σ) :
    let run := generator (paramsOf members) state
    (handle generator members state).state = run.state ∧
      (handle generator members state).answer.outcome =
        (run.outcome.map fun _ => .null).mapError .failed ∧
      (handle generator members state).log =
        run.log ++ if (errorOf? run.outcome).isSome then [.generationFailed] else [] := by
  intro run
  have named : Method.named? (methodOf members) = some .generate := by
    rw [asks]
    exact named_name .generate
  simp only [handle, named]
  cases run.outcome with
  | error failure => exact ⟨rfl, rfl, rfl⟩
  | ok result => exact ⟨rfl, rfl, by simp [run]⟩

private theorem handle_publisher (asks : methodOf members = .str "generate") (tree : Tree) :
    let generated := generate (paramsOf members).plain tree
    (handle publisher members tree).state = generated.tree ∧
      (handle publisher members tree).answer.outcome =
        (generated.outcome.map fun _ => .null).mapError .failed := by
  intro generated
  obtain ⟨left, answered, _⟩ := handle_generate publisher asks tree
  refine ⟨left, answered.trans ?_⟩
  change ((generated.outcome.map fun _ => ()).map fun _ => Wire.null).mapError _ = _
  cases generated.outcome <;> rfl

end Service

namespace Command

variable {request : GenerateRequest} {schema : Path} {settings : Settings} {desk : Desk}

private theorem finish_tree (ending : Ending) (written : Desk × Option Failure) :
    (finish ending written).desk.tree = written.1.tree := by
  obtain ⟨desk, _ | failure⟩ := written <;> rfl

private theorem conclude_fails (failure : Failure) (desk : Desk) :
    (conclude failure desk).desk.tree = desk.tree ∧ (conclude failure desk).ending.exitCode = 1 := by
  have complains (written : Desk × Option Failure) :
      (finish .complained written).ending.exitCode = 1 := by
    obtain ⟨desk, _ | failure⟩ := written <;> rfl
  cases failure with
  | directive error => exact ⟨finish_tree _ _, complains _⟩
  | _ =>
      simp only [conclude]
      split
      · exact ⟨finish_tree _ _, complains _⟩
      · exact ⟨rfl, rfl⟩

private theorem generateOnce_tree (schema : Path) (settings : Settings) (desk : Desk) :
    (generateOnce schema settings desk).1.tree =
      (desk.tree.generate schema settings desk.limits).tree := by
  rw [generateOnce]
  split <;> rfl

theorem generateOnce_of_error {failure : Failure}
    (fails : (desk.tree.generate schema settings desk.limits).outcome = .error failure) :
    generateOnce schema settings desk =
      ({ desk with tree := (desk.tree.generate schema settings desk.limits).tree }, some failure) := by
  simp only [generateOnce, fails]

private theorem generateOnce_early
    (early : EndsEarly (.ok settings) (desk.tree.loadDatamodel schema.text desk.limits)) :
    ∃ failure, generateOnce schema settings desk = (desk, some failure) := by
  obtain ⟨kept, failure, fails⟩ := Generated.staged_early early desk.tree
  rw [← Tree.generate_staged] at kept fails
  refine ⟨failure, ?_⟩
  rw [generateOnce_of_error fails, kept]

private theorem generate_early (happenings : List Happening)
    (early : EndsEarly (request.settings.mapError .settings)
      (desk.tree.loadDatamodel request.schema.text desk.limits)) :
    (generate request desk happenings).desk.tree = desk.tree ∧
      (generate request desk happenings).ending.exitCode = 1 := by
  rw [generate]
  cases resolved : request.settings with
  | error error => exact ⟨rfl, rfl⟩
  | ok settings =>
      rw [resolved] at early
      obtain ⟨failure, stopped⟩ := generateOnce_early early
      simp only [stopped]
      exact conclude_fails failure desk

private theorem generate_tree {failure : Option Failure} {left : Desk} (happenings : List Happening)
    (resolved : request.settings = .ok settings)
    (ran : generateOnce request.schema settings desk = (left, failure))
    (ends : failure ≠ none ∨ request.watch = false) :
    (generate request desk happenings).desk.tree = left.tree ∧
      (failure ≠ none → (generate request desk happenings).ending.exitCode = 1) := by
  simp only [generate, resolved, ran]
  cases failure with
  | some failure =>
      obtain ⟨kept, code⟩ := conclude_fails failure left
      exact ⟨kept, fun _ => code⟩
  | none =>
      have alone : request.watch = false := ends.resolve_left fun some => some rfl
      rw [alone]
      exact ⟨rfl, fun some => absurd rfl some⟩

end Command

/-- A run that ends early, asked for by a request or by a command, is answered by an error and leaves
the tree as it was. One that does not publishes once, with the schemas that were compiled and the
settings that were resolved, and leaves the tree that this leaves. -/
theorem early_end_touches_nothing :
    (∀ members tree, Service.methodOf members = .str "generate" →
      let params := (Service.paramsOf members).plain
      let handled := Service.handle Service.publisher members tree
      (EndsEarly (Service.settings params) (Service.datamodel params) →
        handled.state = tree ∧ ∃ failure, handled.answer.outcome = .error (.failed failure)) ∧
      ∀ settings datamodel schemas, Service.settings params = .ok settings →
        Service.datamodel params = .ok datamodel →
        (datamodel.compile settings).outcome = .ok schemas →
        let published := schemas.publish settings tree
        Service.generate params tree =
            .once (datamodel.compile settings).log schemas published ∧
          handled.state = published.tree ∧
          handled.answer.outcome = match published.outcome with
            | .ok _ => .ok .null
            | .error error => .error (.failed (.file error))) ∧
    (∀ schema settings desk,
      let datamodel := desk.tree.loadDatamodel schema.text desk.limits
      (EndsEarly (.ok settings) datamodel →
        ∃ failure, Command.generateOnce schema settings desk = (desk, some failure)) ∧
      ∀ model schemas, datamodel = .ok model → (model.compile settings).outcome = .ok schemas →
        let published := schemas.publish settings desk.tree
        desk.tree.generate schema settings desk.limits =
            .once (model.compile settings).log schemas published ∧
          (Command.generateOnce schema settings desk).1.tree = published.tree) ∧
    ∀ request desk happenings,
      let datamodel := desk.tree.loadDatamodel request.schema.text desk.limits
      let ran := Command.generate request desk happenings
      (EndsEarly (request.settings.mapError .settings) datamodel →
        ran.desk.tree = desk.tree ∧ ran.ending.exitCode = 1) ∧
      ∀ settings model schemas, request.settings = .ok settings → datamodel = .ok model →
        (model.compile settings).outcome = .ok schemas →
        let published := schemas.publish settings desk.tree
        (∀ error, published.outcome = .error error →
          ran.desk.tree = published.tree ∧ ran.ending.exitCode = 1) ∧
        (request.watch = false → ran.desk.tree = published.tree) ∧
        ∀ left, Command.generateOnce request.schema settings desk = (left, none) →
          request.watch = true → ran = Command.watch request.schema settings left happenings := by
  refine ⟨?_, ?_, ?_⟩
  · intro members tree asks params handled
    obtain ⟨left, answered⟩ := Service.handle_publisher asks tree
    have staged := Service.generate_staged params tree
    constructor
    · intro early
      obtain ⟨kept, failure, fails⟩ := Generated.staged_early early tree
      rw [← staged] at kept fails
      refine ⟨left.trans kept, failure, ?_⟩
      rw [answered, fails]
      rfl
    · intro settings datamodel schemas resolved read compiles published
      have once : Service.generate params tree =
          .once (datamodel.compile settings).log schemas published := by
        rw [staged, resolved, read]
        exact Generated.staged_once compiles tree
      refine ⟨once, ?_, ?_⟩
      · rw [left, once]
        rfl
      · rw [answered, once, Generated.once]
        cases published.outcome <;> rfl
  · intro schema settings desk datamodel
    refine ⟨Command.generateOnce_early, ?_⟩
    intro model schemas read compiles published
    have once := Tree.generate_once read compiles
    refine ⟨once, ?_⟩
    rw [Command.generateOnce_tree, once]
    rfl
  · intro request desk happenings datamodel ran
    refine ⟨Command.generate_early happenings, ?_⟩
    intro settings model schemas resolved read compiles published
    have once := Tree.generate_once read compiles
    have left : (Command.generateOnce request.schema settings desk).1.tree = published.tree := by
      rw [Command.generateOnce_tree, once]
      rfl
    refine ⟨?_, ?_, ?_⟩
    · intro error refused
      have fails : (desk.tree.generate request.schema settings desk.limits).outcome =
          .error (.file error) := by
        rw [once, Generated.once, refused]
        rfl
      have stopped := Command.generateOnce_of_error fails
      obtain ⟨kept, code⟩ :=
        Command.generate_tree happenings resolved stopped (.inl (Option.some_ne_none _))
      rw [stopped] at left
      exact ⟨kept.trans left, code (Option.some_ne_none _)⟩
    · intro alone
      exact (Command.generate_tree happenings resolved rfl (.inr alone)).1.trans left
    · intro done went watches
      change Command.generate request desk happenings = _
      simp only [Command.generate, resolved, went, watches, ↓reduceIte]

def Service.askedFor (document : Json) : List (CodeText × Wire) :=
  [("method", .str "generate"), ("params", .ofJson (.obj
    [("generator", .obj [("output", .obj [("value", .str "out")])]), ("dmmf", document)]))]

def Command.toOut : Command.GenerateRequest where
  schema := Path.ofText "schema.json"
  output := "out"
  importName := "arktype"
  ignoredKeys := none
  watch := false

/-- A desk with a schema beside the folder, to which something was published before. -/
def Command.deskWith (schema : String) : Command.Desk where
  tree := ⟨[], [(["out"], .folder), (["out", "Post.ts"], .file []),
    (["schema.json"], .file (Text.Utf8.encode schema))]⟩
  screen := ""

/-- A request with a misspelt option, and a command on a schema without a data model, touch nothing;
a data model without faults is published, by a request and by a command. -/
theorem misspelt_option_touches_nothing :
    (Service.handle Service.publisher (Service.askedFor (.obj [("models", .arr [.obj [("name", .str "Post"),
        ("documentation", .str "@prisma-arktype.options")]])])) (Command.deskWith "").tree).state =
      (Command.deskWith "").tree ∧
    (Command.generate Command.toOut (Command.deskWith "[]") []).ending.exitCode = 1 ∧
    (Command.generate Command.toOut (Command.deskWith "[]") []).desk.tree =
      (Command.deskWith "[]").tree ∧
    ∃ settings schemas, (({} : Datamodel).compile settings).outcome = .ok schemas ∧
      (Service.handle Service.publisher (Service.askedFor (.obj [("models", .arr [])]))
          (Command.deskWith "").tree).state =
        (schemas.publish settings (Command.deskWith "").tree).tree ∧
      (Command.generate Command.toOut (Command.deskWith "\x7b\"models\":[]\x7d") []).desk.tree =
        (schemas.publish settings (Command.deskWith "\x7b\"models\":[]\x7d").tree).tree := by
  obtain ⟨ofRequest, _, ofCommand⟩ := early_end_touches_nothing
  let settings : Settings := { Settings.standard with output := Path.ofText "out" }
  let faulty : Datamodel := ⟨[⟨"Post", [], some "@prisma-arktype.options"⟩], []⟩
  have fails : (View.plain.compile (faulty.context settings)).outcome =
      .error (.missingPayload .options "@prisma-arktype.options") := by
    rw [← errorOf_eq_some]
    decide +kernel
  have unread : (Command.deskWith "[]").tree.loadDatamodel Command.toOut.schema.text =
      .error (.document .noDatamodel) := by
    rw [← errorOf_eq_some]
    decide +kernel
  have chosen : Command.toOut.settings = .ok settings := by
    rw [← toOption_eq_some]
    decide +kernel
  have read : (Command.deskWith "\x7b\"models\":[]\x7d").tree.loadDatamodel Command.toOut.schema.text =
      .ok {} := by
    rw [← toOption_eq_some]
    decide +kernel
  obtain ⟨schemas, compiles⟩ : ∃ schemas,
      (({} : Datamodel).compile settings).outcome = .ok schemas := by
    rw [← errorOf_eq_none, Datamodel.compile_fault]
    decide +kernel
  obtain ⟨kept, code⟩ := (ofCommand _ _ []).1 (.inr (.inl ⟨_, unread⟩))
  refine ⟨?_, code, kept, settings, schemas, compiles, ?_, ?_⟩
  · exact ((ofRequest _ _ rfl).1 (.inr (.inr ⟨settings, faulty, .plain, _, rfl, rfl, fails⟩))).1
  · exact ((ofRequest _ _ rfl).2 settings {} schemas rfl rfl compiles).2.1
  · exact ((ofCommand _ _ []).2 settings {} schemas chosen read compiles).2.1 rfl

end ModelViews
