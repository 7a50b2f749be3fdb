import ModelViews.Proofs.Outcomes
import ModelViews.Proofs.Sessions
/-!
The calls back of a session. Of the batches that a living session hears, each that holds the schema, in
whatever spelling and through whatever links, leads to one call with the schema as it was given, made on
what the calls before it and the others left. A call that fails is reported, and nothing else comes of it.
-/
namespace ModelViews

def LogEntry.isRegenerationFailed : LogEntry → Bool
  | .regenerationFailed _ => true
  | _ => false

namespace Watch

variable {σ : Type}

namespace Resolver

def Leads (resolver : Resolver) (path : Path) : Prop :=
  ∃ place, resolver.place path = .ok place

def SamePlace (resolver : Resolver) (first second : Path) : Prop :=
  ∃ place, resolver.place first = .ok place ∧ resolver.place second = .ok place

instance (resolver : Resolver) (first second : Path) : Decidable (resolver.SamePlace first second) :=
  decidable_of_iff (∃ place ∈ (resolver.place first).toOption,
      (resolver.place second).toOption = some place)
    (by simp [SamePlace, toOption_eq_some])

end Resolver

def Concerns (resolver : Resolver) (schema : Path) (batch : List Path) : Prop :=
  ∃ changed ∈ batch, resolver.SamePlace changed schema

instance (resolver : Resolver) (schema : Path) (batch : List Path) :
    Decidable (Concerns resolver schema batch) := by
  unfold Concerns
  infer_instance

section Schema

variable {resolver : Resolver} {schema changed : Path} {batch : List Path}

private theorem isSchema_resolved (found : resolver.Leads schema)
    (resolved : resolver.Leads changed) :
    isSchema resolver schema changed = .ok (decide (resolver.SamePlace changed schema)) := by
  obtain ⟨place, leads⟩ := resolved
  obtain ⟨other, known⟩ := found
  simp [isSchema, Resolver.SamePlace, leads, known, Except.map, eq_comm]

private theorem holdsSchema_resolved (found : resolver.Leads schema)
    (resolved : ∀ changed ∈ batch, resolver.Leads changed) :
    holdsSchema resolver schema batch = .ok (decide (Concerns resolver schema batch)) := by
  induction batch with
  | nil => simp [holdsSchema, Concerns]
  | cons changed rest ih =>
      obtain ⟨first, others⟩ := List.forall_mem_cons.mp resolved
      rw [holdsSchema, isSchema_resolved found first, ih others]
      by_cases here : resolver.SamePlace changed schema
      · have concerned : Concerns resolver schema (changed :: rest) :=
          ⟨changed, List.mem_cons_self, here⟩
        rw [decide_eq_true here, decide_eq_true concerned]
      · have same : Concerns resolver schema (changed :: rest) ↔ Concerns resolver schema rest := by
          simp [Concerns, here]
        rw [decide_eq_false here, decide_eq_decide.mpr same]

private theorem holdsSchema_lost {failure : Failure} (lost : resolver.place schema = .error failure)
    (resolved : ∀ changed ∈ batch, resolver.Leads changed) :
    holdsSchema resolver schema batch = if batch = [] then .ok false else .error failure := by
  cases batch with
  | nil => rfl
  | cons changed rest =>
      obtain ⟨place, leads⟩ := resolved changed List.mem_cons_self
      simp [holdsSchema, isSchema, leads, lost, Except.map]

private theorem not_concerns_lost {failure : Failure}
    (lost : resolver.place schema = .error failure) :
    ¬ Concerns resolver schema batch := by
  rintro ⟨changed, _, place, _, found⟩
  rw [lost] at found
  cases found

end Schema

def effect (onChange : Callback σ) (schema : Path) (surroundings : σ) : σ :=
  (onChange schema surroundings).1

def callReport (onChange : Callback σ) (schema : Path) (surroundings : σ) : List LogEntry :=
  .changed schema ::
    if (onChange schema surroundings).2 then [.regenerationFailed schema] else []

/-- A batch of changed paths, and what others do to the surroundings before a session hears of it. -/
structure Delivery (σ : Type) where
  meanwhile : σ → σ
  paths : List Path

namespace Watcher

def take (onChange : Callback σ) (watcher : Watcher σ) (delivery : Delivery σ) : Stepped σ :=
  (watcher.amid delivery.meanwhile).hear onChange delivery.paths

def follow (onChange : Callback σ) (watcher : Watcher σ) : List (Delivery σ) → Stepped σ
  | [] => watcher.quiet
  | delivery :: rest =>
    let first := watcher.take onChange delivery
    let others := follow onChange first.watcher rest
    ⟨others.watcher, first.log ++ others.log, others.raised.or first.raised⟩

def meets (watcher : Watcher σ) (delivery : Delivery σ) : σ :=
  delivery.meanwhile watcher.surroundings

def IsConcerned (watcher : Watcher σ) (delivery : Delivery σ) : Prop :=
  Concerns (watcher.resolver (watcher.meets delivery)) watcher.schema delivery.paths

instance (watcher : Watcher σ) (delivery : Delivery σ) : Decidable (watcher.IsConcerned delivery) := by
  unfold IsConcerned
  infer_instance

/-- The surroundings in which calls are due: those of the deliveries that concern the schema. -/
def calls (onChange : Callback σ) : Watcher σ → List (Delivery σ) → List σ
  | _, [] => []
  | watcher, delivery :: rest =>
    let later := calls onChange (watcher.take onChange delivery).watcher rest
    if watcher.IsConcerned delivery then watcher.meets delivery :: later else later

def Throughout (onChange : Callback σ) (watcher : Watcher σ) (deliveries : List (Delivery σ))
    (P : Resolver → List Path → Prop) : Prop :=
  ∀ before delivery after, deliveries = before ++ delivery :: after →
    let earlier := (watcher.follow onChange before).watcher
    P (earlier.resolver (earlier.meets delivery)) delivery.paths

/-- Batches whose paths can be resolved when a session hears of them. So can the schema, or it never
can. -/
structure Resolves (onChange : Callback σ) (watcher : Watcher σ) (deliveries : List (Delivery σ)) :
    Prop where
  changed : watcher.Throughout onChange deliveries fun resolver batch =>
    ∀ path ∈ batch, resolver.Leads path
  schema : (watcher.Throughout onChange deliveries fun resolver _ => resolver.Leads watcher.schema) ∨
    watcher.Throughout onChange deliveries fun resolver _ => ¬ resolver.Leads watcher.schema

/-- The same session with surroundings that also list the paths that were called back with. -/
def recording (watcher : Watcher σ) (called : List Path) : Watcher (σ × List Path) where
  schema := watcher.schema
  resolver := fun surroundings => watcher.resolver surroundings.1
  task := watcher.task
  watched := watcher.watched
  surroundings := (watcher.surroundings, called)

end Watcher

def Delivery.recording (delivery : Delivery σ) : Delivery (σ × List Path) where
  meanwhile := fun surroundings => (delivery.meanwhile surroundings.1, surroundings.2)
  paths := delivery.paths

/-- Does what another callback does, lists the paths that it was called with, and fails at the calls
that are chosen. -/
def recorder (onChange : Callback σ) (fails : Nat → Bool) : Callback (σ × List Path) :=
  fun schema surroundings =>
    ((effect onChange schema surroundings.1, surroundings.2 ++ [schema]), fails surroundings.2.length)

namespace Watcher

variable (onChange : Callback σ) {watcher : Watcher σ} {delivery : Delivery σ}
  {deliveries : List (Delivery σ)}

/-- Deliveries between which nobody does anything are a run of changes. -/
theorem follow_unmoved (watcher : Watcher σ) (batches : List (List Path)) :
    watcher.follow onChange (batches.map (⟨id, ·⟩)) = watcher.run onChange (batches.map .changes) := by
  induction batches generalizing watcher with
  | nil => rfl
  | cons batch rest ih =>
      rw [List.map_cons, List.map_cons, follow, run, ih]
      rfl

/-! One delivery. -/

private theorem take_resolved (watcher : Watcher σ) (delivery : Delivery σ)
    (alive : watcher.task = .alive)
    (found : (watcher.resolver (watcher.meets delivery)).Leads watcher.schema)
    (resolved : ∀ path ∈ delivery.paths,
      (watcher.resolver (watcher.meets delivery)).Leads path) :
    watcher.take onChange delivery =
      if watcher.IsConcerned delivery then
        ⟨watcher.amid fun _ => effect onChange watcher.schema (watcher.meets delivery),
          callReport onChange watcher.schema (watcher.meets delivery), none⟩
      else (watcher.amid delivery.meanwhile).quiet := by
  have holds := holdsSchema_resolved found resolved
  rw [meets] at holds
  simp only [take, hear, amid, alive, holds, IsConcerned, meets]
  by_cases concerned : Concerns (watcher.resolver (delivery.meanwhile watcher.surroundings))
      watcher.schema delivery.paths
  · rw [if_pos concerned, decide_eq_true concerned]
    rfl
  · rw [if_neg concerned, decide_eq_false concerned]

private theorem take_lost (watcher : Watcher σ) (delivery : Delivery σ) {failure : Failure}
    (lost : (watcher.resolver (watcher.meets delivery)).place watcher.schema = .error failure)
    (resolved : ∀ path ∈ delivery.paths,
      (watcher.resolver (watcher.meets delivery)).Leads path) :
    watcher.take onChange delivery =
      if watcher.task = .alive ∧ delivery.paths ≠ [] then
        ⟨{ watcher.amid delivery.meanwhile with task := .ended (some failure) }, [], none⟩
      else (watcher.amid delivery.meanwhile).quiet := by
  have holds := holdsSchema_lost lost resolved
  rw [meets] at holds
  by_cases alive : watcher.task = .alive
  · by_cases empty : delivery.paths = []
    · rw [if_pos empty] at holds
      rw [if_neg fun both => both.2 empty]
      simp only [take, hear, amid, alive, holds]
    · rw [if_neg empty] at holds
      rw [if_pos ⟨alive, empty⟩]
      simp only [take, hear, amid, alive, holds]
  · rw [if_neg fun both => alive both.1, take, hear]
    split
    · next lives => exact absurd lives alive
    · rfl

private theorem take_kept (watcher : Watcher σ) (delivery : Delivery σ) :
    (watcher.take onChange delivery).watcher.schema = watcher.schema ∧
      (watcher.take onChange delivery).watcher.resolver = watcher.resolver := by
  rw [take, hear]
  split
  · split <;> exact ⟨rfl, rfl⟩
  · exact ⟨rfl, rfl⟩

private def Alert (watcher : Watcher σ) (delivery : Delivery σ) : Prop :=
  (∀ path ∈ delivery.paths, (watcher.resolver (watcher.meets delivery)).Leads path) ∧
    (watcher.task = .alive ∧ (watcher.resolver (watcher.meets delivery)).Leads watcher.schema ∨
      ¬ (watcher.resolver (watcher.meets delivery)).Leads watcher.schema)

private theorem place_of_not_leads {resolver : Resolver} {path : Path}
    (lost : ¬ resolver.Leads path) :
    ∃ failure, resolver.place path = .error failure := by
  cases found : resolver.place path with
  | ok place => exact absurd ⟨place, found⟩ lost
  | error failure => exact ⟨failure, rfl⟩

private theorem take_alert (alert : watcher.Alert delivery) :
    let met := watcher.meets delivery
    let next := watcher.take onChange delivery
    (if watcher.IsConcerned delivery then
      next.watcher.surroundings = effect onChange watcher.schema met ∧
        next.log = callReport onChange watcher.schema met
    else next.watcher.surroundings = met ∧ next.log = []) ∧ next.raised = none := by
  intro met next
  obtain ⟨resolved, ⟨alive, found⟩ | lost⟩ := alert
  · have taken : next = _ := take_resolved onChange watcher delivery alive found resolved
    by_cases concerned : watcher.IsConcerned delivery
    · rw [if_pos concerned] at taken ⊢
      rw [taken]
      exact ⟨⟨rfl, rfl⟩, rfl⟩
    · rw [if_neg concerned] at taken ⊢
      rw [taken]
      exact ⟨⟨rfl, rfl⟩, rfl⟩
  · obtain ⟨failure, lost⟩ := place_of_not_leads lost
    have taken : next = _ := take_lost onChange watcher delivery lost resolved
    have unconcerned : ¬ watcher.IsConcerned delivery := not_concerns_lost lost
    rw [if_neg unconcerned, taken]
    split <;> exact ⟨⟨rfl, rfl⟩, rfl⟩

private theorem take_recording (alert : watcher.Alert delivery) (fails : Nat → Bool)
    (called : List Path) :
    (watcher.recording called).take (recorder onChange fails) delivery.recording =
      if watcher.IsConcerned delivery then
        ⟨(watcher.take onChange delivery).watcher.recording (called ++ [watcher.schema]),
          .changed watcher.schema ::
            if fails called.length then [.regenerationFailed watcher.schema] else [], none⟩
      else ((watcher.take onChange delivery).watcher.recording called).quiet := by
  obtain ⟨resolved, ⟨alive, found⟩ | lost⟩ := alert
  · rw [take_resolved onChange watcher delivery alive found resolved]
    refine (take_resolved _ (watcher.recording called) delivery.recording alive found resolved).trans ?_
    by_cases concerned : watcher.IsConcerned delivery
    · rw [if_pos concerned, if_pos concerned]
      exact if_pos concerned
    · rw [if_neg concerned, if_neg concerned]
      exact if_neg concerned
  · obtain ⟨failure, lost⟩ := place_of_not_leads lost
    have unconcerned : ¬ watcher.IsConcerned delivery := not_concerns_lost lost
    rw [if_neg unconcerned, take_lost onChange watcher delivery lost resolved]
    refine (take_lost _ (watcher.recording called) delivery.recording lost resolved).trans ?_
    by_cases ends : watcher.task = .alive ∧ delivery.paths ≠ []
    · rw [if_pos ends]
      exact if_pos ends
    · rw [if_neg ends]
      exact if_neg ends

private theorem take_alike {other : Callback σ}
    (alike : ∀ surroundings, effect other watcher.schema surroundings =
      effect onChange watcher.schema surroundings) (delivery : Delivery σ) :
    (watcher.take other delivery).watcher = (watcher.take onChange delivery).watcher ∧
      ((watcher.take other delivery).log.filter fun entry => !entry.isRegenerationFailed) =
        (watcher.take onChange delivery).log.filter fun entry => !entry.isRegenerationFailed := by
  have same := alike (watcher.meets delivery)
  simp only [effect, meets] at same
  simp only [take, hear, amid]
  split
  · split
    · exact ⟨rfl, rfl⟩
    · exact ⟨rfl, rfl⟩
    · simp only [same, true_and]
      have report (failed : Bool) :
          ((LogEntry.changed watcher.schema ::
            if failed then [.regenerationFailed watcher.schema] else []).filter fun entry =>
              !entry.isRegenerationFailed) = [.changed watcher.schema] := by
        cases failed <;> rfl
      exact (report _).trans (report _).symm
  · exact ⟨rfl, rfl⟩

/-! Deliveries in order. -/

private theorem follow_concat (watcher : Watcher σ) (before : List (Delivery σ))
    (delivery : Delivery σ) :
    let earlier := watcher.follow onChange before
    let next := earlier.watcher.take onChange delivery
    watcher.follow onChange (before ++ [delivery]) =
      ⟨next.watcher, earlier.log ++ next.log, next.raised.or earlier.raised⟩ := by
  induction before generalizing watcher with
  | nil => simp [follow, quiet]
  | cons first rest ih => simp [follow, ih, Option.or_assoc]

private theorem follow_kept (watcher : Watcher σ) (deliveries : List (Delivery σ)) :
    (watcher.follow onChange deliveries).watcher.schema = watcher.schema ∧
      (watcher.follow onChange deliveries).watcher.resolver = watcher.resolver := by
  induction deliveries generalizing watcher with
  | nil => exact ⟨rfl, rfl⟩
  | cons delivery rest ih =>
      obtain ⟨schema, resolver⟩ := take_kept onChange watcher delivery
      obtain ⟨laterSchema, laterResolver⟩ := ih (watcher.take onChange delivery).watcher
      exact ⟨laterSchema.trans schema, laterResolver.trans resolver⟩

/-- What holds of a session and each delivery, when the session takes it. -/
private def EachTurn (onChange : Callback σ) (watcher : Watcher σ) (deliveries : List (Delivery σ))
    (P : Watcher σ → Delivery σ → Prop) : Prop :=
  ∀ before delivery after, deliveries = before ++ delivery :: after →
    P (watcher.follow onChange before).watcher delivery

private theorem eachTurn_cons {P : Watcher σ → Delivery σ → Prop} :
    watcher.EachTurn onChange (delivery :: deliveries) P ↔
      P watcher delivery ∧
        (watcher.take onChange delivery).watcher.EachTurn onChange deliveries P := by
  constructor
  · intro holds
    refine ⟨holds [] delivery deliveries rfl, ?_⟩
    intro before later after split
    exact holds (delivery :: before) later after (by rw [split, List.cons_append])
  · rintro ⟨now, later⟩ (_ | ⟨first, before⟩) last after split
    · cases split
      exact now
    · cases split
      exact later before last after rfl

private theorem throughout_cons {P : Resolver → List Path → Prop}
    (holds : watcher.Throughout onChange (delivery :: deliveries) P) :
    P (watcher.resolver (watcher.meets delivery)) delivery.paths ∧
      (watcher.take onChange delivery).watcher.Throughout onChange deliveries P := by
  have turns : watcher.EachTurn onChange (delivery :: deliveries) fun earlier delivery =>
    P (earlier.resolver (earlier.meets delivery)) delivery.paths := holds
  exact (eachTurn_cons onChange).mp turns

private def Attends (onChange : Callback σ) (watcher : Watcher σ) (deliveries : List (Delivery σ)) :
    Prop :=
  watcher.EachTurn onChange deliveries Alert

private theorem attends_cons :
    watcher.Attends onChange (delivery :: deliveries) ↔
      watcher.Alert delivery ∧ (watcher.take onChange delivery).watcher.Attends onChange deliveries :=
  eachTurn_cons onChange

private theorem follow_alive (alive : watcher.task = .alive)
    (resolved : watcher.Throughout onChange deliveries fun resolver batch =>
      ∀ path ∈ batch, resolver.Leads path)
    (found : watcher.Throughout onChange deliveries fun resolver _ =>
      resolver.Leads watcher.schema) :
    watcher.Attends onChange deliveries ∧
      (watcher.follow onChange deliveries).watcher.task = .alive := by
  induction deliveries generalizing watcher with
  | nil => exact ⟨by rintro (_ | _) _ _ ⟨⟩, alive⟩
  | cons delivery rest ih =>
      obtain ⟨leads, resolvedRest⟩ := throughout_cons onChange resolved
      obtain ⟨known, foundRest⟩ := throughout_cons onChange found
      have lives : (watcher.take onChange delivery).watcher.task = .alive := by
        rw [take_resolved onChange watcher delivery alive known leads]
        split <;> exact alive
      rw [← (take_kept onChange watcher delivery).1] at foundRest
      obtain ⟨attends, later⟩ := ih lives resolvedRest foundRest
      exact ⟨(attends_cons onChange).mpr ⟨⟨leads, .inl ⟨alive, known⟩⟩, attends⟩, later⟩

private theorem Resolves.attends (resolves : watcher.Resolves onChange deliveries)
    (alive : watcher.task = .alive) : watcher.Attends onChange deliveries := by
  obtain found | lost := resolves.schema
  · exact (follow_alive onChange alive resolves.changed found).1
  · intro before delivery after split
    refine ⟨resolves.changed before delivery after split, .inr ?_⟩
    rw [(follow_kept onChange watcher before).1]
    exact lost before delivery after split

private theorem follow_calls (attends : watcher.Attends onChange deliveries) :
    (watcher.follow onChange deliveries).log =
        (watcher.calls onChange deliveries).flatMap (callReport onChange watcher.schema) ∧
      (watcher.follow onChange deliveries).raised = none := by
  induction deliveries generalizing watcher with
  | nil => exact ⟨rfl, rfl⟩
  | cons delivery rest ih =>
      obtain ⟨alert, others⟩ := (attends_cons onChange).mp attends
      obtain ⟨called, unraised⟩ := take_alert onChange alert
      obtain ⟨reported, laterUnraised⟩ := ih others
      rw [(take_kept onChange watcher delivery).1] at reported
      refine ⟨?_, by rw [follow, unraised, laterUnraised, Option.or_none]⟩
      rw [follow, calls, reported]
      by_cases concerned : watcher.IsConcerned delivery
      · rw [if_pos concerned] at called ⊢
        rw [called.2, List.flatMap_cons]
      · rw [if_neg concerned] at called ⊢
        rw [called.2, List.nil_append]

private theorem follow_alike {other : Callback σ}
    (alike : ∀ surroundings, effect other watcher.schema surroundings =
      effect onChange watcher.schema surroundings) (deliveries : List (Delivery σ)) :
    (watcher.follow other deliveries).watcher = (watcher.follow onChange deliveries).watcher ∧
      ((watcher.follow other deliveries).log.filter fun entry => !entry.isRegenerationFailed) =
        (watcher.follow onChange deliveries).log.filter fun entry => !entry.isRegenerationFailed := by
  induction deliveries generalizing watcher with
  | nil => exact ⟨rfl, rfl⟩
  | cons delivery rest ih =>
      obtain ⟨same, reports⟩ := take_alike onChange alike delivery
      rw [← (take_kept onChange watcher delivery).1] at alike
      obtain ⟨left, later⟩ := ih alike
      simp only [follow, same, List.filter_append, reports, left, later, and_self]

def numberedReports (schema : Path) (fails : Nat → Bool) (start count : Nat) : List LogEntry :=
  (List.range' start count).flatMap fun call =>
    .changed schema :: if fails call then [.regenerationFailed schema] else []

private theorem follow_recording (attends : watcher.Attends onChange deliveries)
    (fails : Nat → Bool) (called : List Path) :
    let count := (watcher.calls onChange deliveries).length
    let after := (watcher.recording called).follow (recorder onChange fails)
      (deliveries.map .recording)
    after.watcher = (watcher.follow onChange deliveries).watcher.recording
        (called ++ List.replicate count watcher.schema) ∧
      after.log = numberedReports watcher.schema fails called.length count := by
  induction deliveries generalizing watcher called with
  | nil => simp [follow, quiet, calls, numberedReports]
  | cons delivery rest ih =>
      obtain ⟨alert, others⟩ := (attends_cons onChange).mp attends
      have taken := take_recording onChange alert fails called
      have schema := (take_kept onChange watcher delivery).1
      simp only [List.map_cons, follow, calls, taken]
      by_cases concerned : watcher.IsConcerned delivery
      · obtain ⟨left, reports⟩ := ih others (called ++ [watcher.schema])
        simp only [if_pos concerned, left, reports, schema, List.length_cons, List.length_append,
          List.length_nil, List.append_assoc, List.singleton_append, List.replicate_succ,
          numberedReports, List.range'_succ, List.flatMap_cons, true_and]
      · obtain ⟨left, reports⟩ := ih others called
        simp only [if_neg concerned, quiet, left, reports, schema, List.nil_append, and_self]

/-- How the deliveries that a session takes lead to calls back. -/
structure CallsBack (watcher : Watcher σ) (deliveries : List (Delivery σ)) : Prop where
  /-- A batch that holds the schema leads to one call with the schema, on what the deliveries before
  it and the others left, and the call is reported. Any other batch leads to none. -/
  each : ∀ before delivery after, deliveries = before ++ delivery :: after →
    let earlier := watcher.follow onChange before
    let now := watcher.follow onChange (before ++ [delivery])
    let met := delivery.meanwhile earlier.watcher.surroundings
    if Concerns (watcher.resolver met) watcher.schema delivery.paths then
      now.watcher.surroundings = effect onChange watcher.schema met ∧
        now.log = earlier.log ++ callReport onChange watcher.schema met
    else now.watcher.surroundings = met ∧ now.log = earlier.log
  /-- There are as many calls, one after the other, as there are such batches. -/
  total : (watcher.follow onChange deliveries).log =
    (watcher.calls onChange deliveries).flatMap (callReport onChange watcher.schema)
  /-- Nothing is raised, and a session that can find the schema goes on. -/
  goesOn : let after := watcher.follow onChange deliveries
    after.raised = none ∧
      ((watcher.Throughout onChange deliveries fun resolver _ => resolver.Leads watcher.schema) →
        after.watcher.task = .alive)
  /-- Which calls fail makes no difference but for the reports of those that do. -/
  failures : ∀ other : Callback σ,
    (∀ surroundings, effect other watcher.schema surroundings =
      effect onChange watcher.schema surroundings) →
    let after := watcher.follow onChange deliveries
    let otherwise := watcher.follow other deliveries
    otherwise.watcher = after.watcher ∧
      (otherwise.log.filter fun entry => !entry.isRegenerationFailed) =
        after.log.filter fun entry => !entry.isRegenerationFailed
  /-- Whichever calls fail, a list of them holds the schema as it was given, once for each. -/
  recorded : ∀ fails : Nat → Bool,
    let count := (watcher.calls onChange deliveries).length
    let after := (watcher.recording []).follow (recorder onChange fails) (deliveries.map .recording)
    after.watcher.surroundings =
        ((watcher.follow onChange deliveries).watcher.surroundings,
          List.replicate count watcher.schema) ∧
      after.log = numberedReports watcher.schema fails 0 count

/-- Where a schema that can be resolved once always can, only the batches need to be resolved. -/
theorem resolves_of_steady
    (steady : ∀ once now, (watcher.resolver once).Leads watcher.schema →
      (watcher.resolver now).Leads watcher.schema)
    (changed : watcher.Throughout onChange deliveries fun resolver batch =>
      ∀ path ∈ batch, resolver.Leads path) :
    watcher.Resolves onChange deliveries := by
  refine ⟨changed, ?_⟩
  by_cases found : ∃ once, (watcher.resolver once).Leads watcher.schema
  · obtain ⟨once, found⟩ := found
    left
    intro before delivery after _ earlier
    have kept : earlier.resolver = watcher.resolver := (follow_kept onChange watcher before).2
    simpa only [kept] using steady once (earlier.meets delivery) found
  · right
    intro before delivery after _ earlier leads
    have kept : earlier.resolver = watcher.resolver := (follow_kept onChange watcher before).2
    simp only [kept] at leads
    exact found ⟨_, leads⟩

/-- A living session calls back once for each batch that holds the schema, in the order of the batches
and with the schema as it was given, whichever of the calls fail. -/
theorem called_once_per_batch (alive : watcher.task = .alive)
    (resolves : watcher.Resolves onChange deliveries) : CallsBack onChange watcher deliveries := by
  have attends := resolves.attends onChange alive
  constructor
  case each =>
    intro before delivery after split earlier now met
    have next : now = _ := follow_concat onChange watcher before delivery
    obtain ⟨called, _⟩ := take_alert onChange (attends before delivery after split)
    obtain ⟨schema, resolver⟩ := follow_kept onChange watcher before
    have same : earlier.watcher.IsConcerned delivery ↔
        Concerns (watcher.resolver met) watcher.schema delivery.paths := by
      rw [IsConcerned, schema, resolver]
      rfl
    rw [next]
    by_cases concerned : Concerns (watcher.resolver met) watcher.schema delivery.paths
    · rw [if_pos (same.mpr concerned), schema] at called
      rw [if_pos concerned]
      exact ⟨called.1, congrArg (earlier.log ++ ·) called.2⟩
    · rw [if_neg (mt same.mp concerned)] at called
      rw [if_neg concerned]
      exact ⟨called.1, (congrArg (earlier.log ++ ·) called.2).trans (List.append_nil _)⟩
  case total => exact (follow_calls onChange attends).1
  case goesOn =>
    exact ⟨(follow_calls onChange attends).2, fun found =>
      (follow_alive onChange alive resolves.changed found).2⟩
  case failures => exact fun other alike => follow_alike onChange alike deliveries
  case recorded =>
    intro fails count after
    obtain ⟨left, reports⟩ := follow_recording onChange attends fails []
    exact ⟨congrArg Watcher.surroundings left, reports⟩

/-- A session on a schema that is a link. The surroundings hold the place that the link leads to, and how
many calls were made. -/
def linked : Watcher (Place × Nat) where
  schema := Path.ofText "schema.json"
  resolver := fun surroundings => ⟨fun path =>
    ((Resolver.lexical ["work"]).place path).map fun place =>
      if place = ["work", "schema.json"] then surroundings.1 else place⟩
  task := .alive
  watched := []
  surroundings := (["work", "models", "first.json"], 0)

def linkedDeliveries : List (Delivery (Place × Nat)) :=
  let batch (texts : List String) := texts.map Path.ofText
  [⟨id, batch ["notes.txt", "/work/./models/first.json", "schema.json"]⟩,
    ⟨id, batch ["models/second.json"]⟩,
    ⟨fun surroundings => (["work", "models", "second.json"], surroundings.2),
      batch ["models//../models/second.json"]⟩,
    ⟨id, []⟩, ⟨id, batch ["models/first.json"]⟩]

private theorem linked_leads (target : Place × Nat) {path : Path} (sound : path.hasNul = false) :
    (linked.resolver target).Leads path := by
  simp [linked, Resolver.Leads, Resolver.lexical, sound, Except.map]

/-- Two of five batches hold the schema, one of them in two spellings. The first call fails, and the
second is made all the same. -/
theorem listener_calls :
    let count : Callback (Place × Nat) := fun _ seen => ((seen.1, seen.2 + 1), false)
    linked.task = .alive ∧ linked.Resolves count linkedDeliveries ∧
      CallsBack count linked linkedDeliveries ∧
      (linked.calls count linkedDeliveries).length = 2 ∧
      let after := (linked.recording []).follow (recorder count fun call => call = 0)
        (linkedDeliveries.map .recording)
      after.watcher.surroundings =
          ((["work", "models", "second.json"], 2), [linked.schema, linked.schema]) ∧
        after.log = [.changed linked.schema, .regenerationFailed linked.schema,
          .changed linked.schema] := by
  intro count
  have sound : ∀ delivery ∈ linkedDeliveries, ∀ path ∈ delivery.paths, path.hasNul = false := by
    decide +kernel
  have resolves : linked.Resolves count linkedDeliveries := by
    apply resolves_of_steady count fun _ now _ => linked_leads now (by decide +kernel)
    intro before delivery after split earlier path member
    have kept : earlier.resolver = linked.resolver := (follow_kept count linked before).2
    simpa only [kept] using linked_leads _ (sound delivery (by simp [split]) path member)
  have calls := called_once_per_batch count rfl resolves
  have two : (linked.calls count linkedDeliveries).length = 2 := by decide +kernel
  have left : (linked.follow count linkedDeliveries).watcher.surroundings =
      (["work", "models", "second.json"], 2) := by decide +kernel
  obtain ⟨lists, reports⟩ := calls.recorded fun call => call = 0
  rw [two] at lists reports
  rw [left] at lists
  exact ⟨rfl, resolves, calls, two, lists, reports⟩

end Watcher
end Watch
end ModelViews
