import ModelViews.Log

namespace ModelViews

variable {ε α β : Type}

def errorOf? : Except ε α → Option ε
  | .error error => some error
  | .ok _ => none

@[simp] theorem errorOf_error (error : ε) : errorOf? (.error error : Except ε α) = some error := rfl

@[simp] theorem errorOf_ok (value : α) : errorOf? (.ok value : Except ε α) = none := rfl

theorem errorOf_eq_some {outcome : Except ε α} {error : ε} :
    errorOf? outcome = some error ↔ outcome = .error error := by
  cases outcome <;> simp

theorem errorOf_eq_none {outcome : Except ε α} :
    errorOf? outcome = none ↔ ∃ value, outcome = .ok value := by
  cases outcome <;> simp

theorem errorOf_isSome {outcome : Except ε α} :
    (errorOf? outcome).isSome ↔ ∃ error, outcome = .error error := by
  cases outcome <;> simp

theorem toOption_eq_some {outcome : Except ε α} {value : α} :
    outcome.toOption = some value ↔ outcome = .ok value := by
  cases outcome <;> simp [Except.toOption]

@[simp] theorem errorOf_map (outcome : Except ε α) (change : α → β) :
    errorOf? (outcome.map change) = errorOf? outcome := by
  cases outcome <;> rfl

theorem bind_eq_ok {first : Except ε α} {next : α → Except ε β} {value : β} :
    (first >>= next) = .ok value ↔ ∃ middle, first = .ok middle ∧ next middle = .ok value := by
  cases first with
  | error error => simp [bind, Except.bind]
  | ok middle => simp [bind, Except.bind]

theorem bind_eq_error {first : Except ε α} {next : α → Except ε β} {error : ε} :
    (first >>= next) = .error error ↔
      first = .error error ∨ ∃ middle, first = .ok middle ∧ next middle = .error error := by
  cases first with
  | error other => simp [bind, Except.bind]
  | ok middle => simp [bind, Except.bind]

theorem map_eq_ok {outcome : Except ε α} {change : α → β} {value : β} :
    outcome.map change = .ok value ↔ ∃ before, outcome = .ok before ∧ change before = value := by
  cases outcome <;> simp [Except.map]

theorem map_eq_error {outcome : Except ε α} {change : α → β} {error : ε} :
    outcome.map change = .error error ↔ outcome = .error error := by
  cases outcome <;> simp [Except.map]

theorem mapM_cons_eq_ok {step : α → Except ε β} {item : α} {rest : List α} {results : List β} :
    (item :: rest).mapM step = .ok results ↔
      ∃ result others, step item = .ok result ∧ rest.mapM step = .ok others ∧
        result :: others = results := by
  simp only [List.mapM_cons, bind_eq_ok, pure, Except.pure, Except.ok.injEq]
  constructor
  · rintro ⟨result, head, others, tail, same⟩
    exact ⟨result, others, head, tail, same⟩
  · rintro ⟨result, others, head, tail, same⟩
    exact ⟨result, head, others, tail, same⟩

theorem mem_of_mapM {step : α → Except ε β} {items : List α} {results : List β} {result : β}
    (gave : items.mapM step = .ok results) (member : result ∈ results) :
    ∃ item ∈ items, step item = .ok result := by
  induction items generalizing results with
  | nil =>
      rw [← Except.ok.inj gave] at member
      cases member
  | cons item rest ih =>
      obtain ⟨first, others, head, tail, rfl⟩ := mapM_cons_eq_ok.mp gave
      rcases List.mem_cons.mp member with rfl | later
      · exact ⟨item, List.mem_cons_self, head⟩
      · obtain ⟨other, inside, found⟩ := ih tail later
        exact ⟨other, List.mem_cons_of_mem item inside, found⟩

theorem error_of_mapM {step : α → Except ε β} {items : List α} {error : ε}
    (failed : items.mapM step = .error error) : ∃ item ∈ items, step item = .error error := by
  induction items with
  | nil => cases failed
  | cons item rest ih =>
      rw [List.mapM_cons] at failed
      rcases bind_eq_error.mp failed with head | ⟨_, _, failed⟩
      · exact ⟨item, List.mem_cons_self, head⟩
      · rcases bind_eq_error.mp failed with tail | ⟨_, _, failed⟩
        · obtain ⟨other, inside, found⟩ := ih tail
          exact ⟨other, List.mem_cons_of_mem item inside, found⟩
        · cases failed

theorem findSome_congr {first second : α → Option β} {items : List α}
    (same : ∀ item ∈ items, first item = second item) :
    items.findSome? first = items.findSome? second := by
  induction items with
  | nil => rfl
  | cons item rest ih =>
      rw [List.findSome?_cons, List.findSome?_cons, same item (by simp),
        ih fun other member => same other (by simp [member])]

theorem findSome_flatMap {γ : Type} (parts : α → List γ) (find : γ → Option β) (items : List α) :
    (items.flatMap parts).findSome? find =
      items.findSome? fun item => (parts item).findSome? find := by
  induction items with
  | nil => rfl
  | cons item rest ih =>
      rw [List.flatMap_cons, List.findSome?_append, ih, List.findSome?_cons]
      cases (parts item).findSome? find <;> rfl

namespace Logged

@[simp] theorem outcome_done (value : α) : (done value : Logged ε α).outcome = .ok value := rfl

@[simp] theorem outcome_fail (error : ε) : (fail error : Logged ε α).outcome = .error error := rfl

@[simp] theorem outcome_pure (value : α) : (pure value : Logged ε α).outcome = .ok value := rfl

@[simp] theorem outcome_report (entry : LogEntry) :
    (report entry : Logged ε Unit).outcome = .ok () := rfl

theorem bind_of_error {first : Logged ε α} {next : α → Logged ε β} {error : ε}
    (failed : first.outcome = .error error) : (first >>= next).outcome = .error error := by
  change (andThen first next).outcome = .error error
  simp only [andThen, failed]

theorem bind_of_ok {first : Logged ε α} {next : α → Logged ε β} {value : α}
    (gave : first.outcome = .ok value) : (first >>= next).outcome = (next value).outcome := by
  change (andThen first next).outcome = (next value).outcome
  simp only [andThen, gave]

theorem bind_eq_ok {first : Logged ε α} {next : α → Logged ε β} {value : β} :
    (first >>= next).outcome = .ok value ↔
      ∃ middle, first.outcome = .ok middle ∧ (next middle).outcome = .ok value := by
  cases gave : first.outcome with
  | error error => simp [bind_of_error gave]
  | ok middle => simp [bind_of_ok gave]

variable (step : α → Logged ε (Option β))

theorem collect_fault (items : List α) :
    errorOf? (collect step items).outcome =
      items.findSome? fun item => errorOf? (step item).outcome := by
  induction items with
  | nil => rfl
  | cons first rest ih =>
      rw [collect, List.findSome?_cons, ← ih]
      cases headOutcome : (step first).outcome with
      | error error => rw [bind_of_error headOutcome]; rfl
      | ok result =>
          rw [bind_of_ok headOutcome]
          cases tailOutcome : (collect step rest).outcome with
          | error error => rw [bind_of_error tailOutcome]; rfl
          | ok results => rw [bind_of_ok tailOutcome]; rfl

/-- Where each step can give no more than `give` says, a collection gives that. -/
theorem collect_eq_filterMap {items : List α} {results : List β} {give : α → Option β}
    (each : ∀ item ∈ items, ∀ result, (step item).outcome = .ok result → result = give item)
    (gave : (collect step items).outcome = .ok results) : results = items.filterMap give := by
  induction items generalizing results with
  | nil =>
      simp only [collect, outcome_done, Except.ok.injEq] at gave
      simp [← gave]
  | cons first rest ih =>
      rw [collect] at gave
      obtain ⟨result, headGave, gave⟩ := bind_eq_ok.mp gave
      obtain ⟨others, tailGave, gave⟩ := bind_eq_ok.mp gave
      have head := each first (by simp) result headGave
      have tail := ih (fun item member => each item (by simp [member])) tailGave
      simp only [outcome_pure, Except.ok.injEq] at gave
      rw [← gave, tail, head, List.filterMap_cons]
      cases give first <;> rfl

end Logged
end ModelViews
