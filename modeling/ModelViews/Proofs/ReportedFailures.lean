import ModelViews.Proofs.Complaints
import ModelViews.Proofs.Stages

namespace ModelViews.Command

/-- How a command ends on a failure that lies in what the user wrote, after a run that left a desk: with a
complaint of it on the screen. What may be raised instead is of another kind, a line that cannot be cut
because it has a joiner. -/
structure Reports (failure : Failure) (left : Desk) (ran : Ran) : Prop where
  screen : ran.desk = left.write (report failure).text
  code : ran.ending.exitCode = 1
  complains : Cells.joiner ∉ Markup.remark (labelOf failure) (saidOf failure) →
    ran.ending = .complained
  begins : ran.ending = .complained →
    (labelOf failure).toList ++ [' '] <+: (report failure).text.toList
  raised : ∀ other, ran.ending = .raised other →
    other.isReported = false ∧ ∃ error, other = .screen (.cut error)

variable {failure : Failure} {left : Desk}

theorem conclude_reports (reported : failure.isReported = true) :
    Reports failure left (conclude failure left) := by
  have reaches : Screen.Reaches (labelOf failure) (saidOf failure) (report failure) :=
    Screen.reaches_labelled (isHeading_labelOf failure) (saidOf failure)
  rw [conclude_eq, if_pos reported, put]
  cases fault : (report failure).fault with
  | none =>
      exact {
        screen := rfl
        code := rfl
        complains := fun _ => rfl
        begins := fun _ => reaches.begins fault
        raised := nofun }
  | some fault' =>
      obtain ⟨⟨error, rfl⟩, joined⟩ := reaches.uncut fault' fault
      exact {
        screen := rfl
        code := rfl
        complains := fun free => absurd joined free
        begins := nofun
        raised := fun other same => by
          obtain rfl : Failure.screen (.cut error) = other := Ending.raised.inj same
          exact ⟨rfl, error, rfl⟩ }

/-- A command whose settings can be resolved reports what goes wrong in its run and lies in what the user
wrote, and raises what else goes wrong there. One on a blank import name raises that its settings cannot be
resolved, though this is a failure to report, and writes nothing on the screen; no other option keeps
settings from being resolved. -/
theorem generate_reports (request : GenerateRequest) (desk : Desk) (happenings : List Happening) :
    ((∃ error, request.settings = .error error) ↔ Text.trimmed request.importName = "") ∧
    (∀ error, request.settings = .error error →
      (Failure.settings error).isReported = true ∧
        generate request desk happenings = ⟨desk, .raised (.settings error), []⟩) ∧
    ∀ settings left failure, request.settings = .ok settings →
      generateOnce request.schema settings desk = (left, some failure) →
        if failure.isReported then Reports failure left (generate request desk happenings)
        else generate request desk happenings = ⟨left, .raised failure, []⟩ := by
  refine ⟨?_, ?_, ?_⟩
  · rw [GenerateRequest.settings_eq]
    by_cases blank : Text.trimmed request.importName = ""
    · simp [blank]
    · simp [blank]
  · intro error unsettled
    refine ⟨?_, by simp only [generate, unsettled]⟩
    rw [GenerateRequest.settings_eq] at unsettled
    split at unsettled
    · rw [← Except.error.inj unsettled]
      rfl
    · cases unsettled
  · intro settings left failure settled fails
    simp only [generate, settled, fails]
    split
    · next reported => exact conclude_reports reported
    · next unreported => rw [conclude_eq, if_neg unreported]

theorem generateOnce_unloaded {desk : Desk} {schema : Path}
    (unloaded : desk.tree.loadDatamodel schema.text desk.limits = .error failure)
    (settings : Settings) :
    generateOnce schema settings desk = (desk, some failure) := by
  have failed : desk.tree.generate schema settings desk.limits =
      ⟨desk.tree, [], .error failure⟩ := by
    rw [Tree.generate, unloaded]
  rw [generateOnce_of_error (by rw [failed]), failed]

theorem settings_toOut :
    toOut.settings = .ok { Settings.standard with output := Path.ofText "out" } := by
  rw [← toOption_eq_some]
  decide +kernel

/-- A schema that is not there is complained of on the screen. -/
theorem missing_schema_reported :
    let desk : Desk := ⟨⟨[], []⟩, "", .standard⟩
    let ran := generate toOut desk []
    ran.ending = .complained ∧ ran.desk.tree = desk.tree ∧
      "Error: ".toList <+: ran.desk.screen.toList := by
  intro desk ran
  let failure : Failure := .noSchema "schema.json"
  have unread : desk.tree.loadDatamodel toOut.schema.text desk.limits = .error failure := by
    rw [← errorOf_eq_some]
    decide +kernel
  have reports : Reports failure desk ran :=
    (generate_reports toOut desk []).2.2 _ desk failure settings_toOut (generateOnce_unloaded unread _)
  have free : Cells.joiner ∉ Markup.remark (labelOf failure) (saidOf failure) := by decide +kernel
  have label : "Error: ".toList = (labelOf failure).toList ++ [' '] := by decide +kernel
  have complained := reports.complains free
  refine ⟨complained, ?_, ?_⟩
  · rw [reports.screen, Desk.write]
  · have shown : ran.desk.screen = (report failure).text :=
      calc
        ran.desk.screen = "" ++ (report failure).text := congrArg Desk.screen reports.screen
        _ = (report failure).text := String.empty_append
    rw [shown, label]
    exact reports.begins complained

def blankNamed : GenerateRequest :=
  { toOut with importName := " " }

/-- A blank import name is not complained of: that the settings cannot be resolved is raised, though it is
a failure to report. -/
theorem blank_name_raised :
    Invocation.ofArguments
        ["generate", "schema.json", "--output", "out", "--import-name", " "] = .generate blankNamed ∧
      ¬ ∀ request desk happenings failure,
        (generate request desk happenings).ending = .raised failure → failure.isReported = false := by
  refine ⟨by decide +kernel, fun never => ?_⟩
  have blank : Text.trimmed blankNamed.importName = "" := by decide +kernel
  have unsettled := GenerateRequest.settings_eq blankNamed
  rw [if_pos blank] at unsettled
  have raised : generate blankNamed (deskWith "") [] = ⟨deskWith "", .raised (.settings (.problems
      [⟨[.name "arktypeImportDependencyName"], .blankImportName⟩])), []⟩ := by
    simp only [generate, unsettled]
  exact absurd (never _ _ _ _ (congrArg Ran.ending raised)) (by decide)

end ModelViews.Command
