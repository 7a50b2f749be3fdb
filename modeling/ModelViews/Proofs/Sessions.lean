import Mathlib.Data.List.Basic
import Mathlib.Data.List.Induction
import ModelViews.Watch
/-!
The sessions of a watcher, over any run of starts, stops and deliveries. At most one session is alive
at a time; a session is opened by the first start after a completed stop and by nothing else; and a
session that is over stays over until a stop lets go of it.

A stop is taken as one event at the moment it completes, or raises the failure of the session; what the
session hears while it is being stopped comes before that event. To wait is to take deliveries.
-/
namespace ModelViews

def LogEntry.isWatching : LogEntry → Bool
  | .watching _ => true
  | _ => false

private theorem concat_eq_split {α : Type} {items before after : List α} {item mark : α} :
    items ++ [item] = before ++ mark :: after ↔
      (items = before ∧ item = mark ∧ after = []) ∨
        ∃ earlier, after = earlier ++ [item] ∧ items = before ++ mark :: earlier := by
  constructor
  · intro split
    rcases List.eq_nil_or_concat' after with rfl | ⟨earlier, last, rfl⟩
    · obtain ⟨same, last⟩ := List.append_singleton_inj.mp split
      exact .inl ⟨same, last, rfl⟩
    · have regrouped : items ++ [item] = (before ++ mark :: earlier) ++ [last] := by
        rw [split, List.append_assoc, List.cons_append]
      obtain ⟨same, rfl⟩ := List.append_singleton_inj.mp regrouped
      exact .inr ⟨earlier, rfl, same⟩
  · rintro (⟨rfl, rfl, rfl⟩ | ⟨earlier, rfl, rfl⟩)
    · rfl
    · rw [List.append_assoc, List.cons_append]

namespace Watch

variable {σ : Type}

def Task.isLive : Task → Bool
  | readied | alive => true
  | absent | ended _ => false

def Event.isDelivery : Event → Bool
  | start | stop => false
  | firstTurn | changes _ | sourceEnds _ => true

namespace Stepped

def opens (next : Stepped σ) : Bool :=
  next.log.any LogEntry.isWatching

/-- All sessions after an event, the latest first: a session more if the event opens one, and the state
of the latest session otherwise. -/
def enroll (next : Stepped σ) (sessions : List Task) : List Task :=
  if next.opens then next.watcher.task :: sessions
  else sessions.modifyHead fun _ => next.watcher.task

end Stepped

namespace Watcher

/-- All sessions that are opened in a run, added to those of the past, each as the run leaves it. -/
def sessionsFrom (onChange : Callback σ) : Watcher σ → List Task → List Event → List Task
  | _, past, [] => past
  | watcher, past, event :: events =>
    let next := watcher.step onChange event
    sessionsFrom onChange next.watcher (next.enroll past) events

def completedStops (onChange : Callback σ) : Watcher σ → List Event → Nat
  | _, [] => 0
  | watcher, event :: events =>
    let next := watcher.step onChange event
    let others := completedStops onChange next.watcher events
    if event = .stop ∧ watcher.task ≠ .absent ∧ next.raised = none then others + 1 else others

def StartedSinceStop (onChange : Callback σ) (watcher : Watcher σ) (events : List Event) : Prop :=
  ∃ before after, events = before ++ .start :: after ∧
    ∀ between rest, after = between ++ .stop :: rest →
      (watcher.run onChange (before ++ .start :: between)).watcher.stop.raised ≠ none

variable (onChange : Callback σ) {watcher : Watcher σ} {event : Event} {events : List Event}

theorem run_append (first second : List Event) :
    watcher.run onChange (first ++ second) =
      let front := watcher.run onChange first
      let back := front.watcher.run onChange second
      ⟨back.watcher, front.log ++ back.log, back.raised.or front.raised⟩ := by
  induction first generalizing watcher with
  | nil => simp [run, quiet]
  | cons event rest ih => simp [run, ih, Option.or_assoc]

private theorem run_concat :
    (watcher.run onChange (events ++ [event])).watcher =
      ((watcher.run onChange events).watcher.step onChange event).watcher := by
  rw [run_append]
  rfl

private theorem start_absent (absent : watcher.task = .absent) :
    watcher.start = ⟨{ watcher with task := .readied }, [.watching watcher.schema], none⟩ := by
  rw [start, absent]

private theorem start_held (held : watcher.task ≠ .absent) : watcher.start = watcher.quiet := by
  rw [start]
  split
  · next absent => exact absurd absent held
  · rfl

private theorem stop_absent (absent : watcher.task = .absent) : watcher.stop = watcher.quiet := by
  rw [stop, absent]

private theorem stop_failed {failure : Failure} (failed : watcher.task = .ended (some failure)) :
    watcher.stop = ⟨watcher, [], some failure⟩ := by
  rw [stop, failed]

private theorem stop_raised_iff :
    watcher.stop.raised ≠ none ↔ ∃ failure, watcher.task = .ended (some failure) := by
  rw [stop]
  split
  · next absent => simp [quiet, absent]
  · next failure failed => simp [failed]
  · next _ sound => simpa using sound

private theorem stop_completed (completed : watcher.stop.raised = none) :
    watcher.stop.watcher.task = .absent := by
  rw [stop] at completed ⊢
  split
  · next absent => exact absent
  · next failure failed =>
      rw [failed] at completed
      cases completed
  · rfl

private theorem stop_opens : watcher.stop.opens = false := by
  rw [stop]
  split <;> rfl

private theorem held_of_live (live : watcher.task.isLive = true) : watcher.task ≠ .absent := by
  intro absent
  rw [absent] at live
  cases live

private theorem delivery_over (delivered : event.isDelivery = true)
    (lifeless : watcher.task.isLive = false) :
    watcher.step onChange event = watcher.quiet := by
  have unready : watcher.task ≠ .readied := by
    intro readied
    rw [readied] at lifeless
    cases lifeless
  have dead : watcher.task ≠ .alive := by
    intro alive
    rw [alive] at lifeless
    cases lifeless
  cases event with
  | start => cases delivered
  | stop => cases delivered
  | firstTurn =>
      rw [step, firstTurn]
      split
      · contradiction
      · rfl
  | changes paths =>
      rw [step, hear]
      split
      · contradiction
      · rfl
  | sourceEnds failure =>
      rw [step, finish]
      split
      · contradiction
      · rfl

private theorem hear_live (paths : List Path) (live : watcher.task.isLive = true) :
    (watcher.hear onChange paths).watcher.task ≠ .absent ∧
      (watcher.hear onChange paths).opens = false := by
  have held := held_of_live live
  rw [hear]
  split
  · split
    · exact ⟨nofun, rfl⟩
    · exact ⟨held, rfl⟩
    · rcases onChange watcher.schema watcher.surroundings with ⟨_, failed⟩
      refine ⟨held, ?_⟩
      cases failed <;> rfl
  · exact ⟨held, rfl⟩

private theorem delivery_live (delivered : event.isDelivery = true)
    (live : watcher.task.isLive = true) :
    (watcher.step onChange event).watcher.task ≠ .absent ∧
      (watcher.step onChange event).opens = false := by
  have held := held_of_live live
  cases event with
  | start => cases delivered
  | stop => cases delivered
  | firstTurn =>
      rw [step, firstTurn]
      split
      · exact ⟨nofun, rfl⟩
      · exact ⟨held, rfl⟩
  | changes paths => exact hear_live onChange paths live
  | sourceEnds failure =>
      rw [step, finish]
      split
      · exact ⟨nofun, rfl⟩
      · exact ⟨held, rfl⟩

private theorem delivery_held (watcher : Watcher σ) (delivered : event.isDelivery = true) :
    ((watcher.step onChange event).watcher.task = .absent ↔ watcher.task = .absent) ∧
      (watcher.step onChange event).opens = false := by
  cases live : watcher.task.isLive with
  | false =>
      rw [delivery_over onChange delivered live]
      exact ⟨Iff.rfl, rfl⟩
  | true =>
      obtain ⟨held, opens⟩ := delivery_live onChange delivered live
      exact ⟨iff_of_false held (held_of_live live), opens⟩

private theorem opens_iff :
    (watcher.step onChange event).opens = true ↔ event = .start ∧ watcher.task = .absent := by
  cases event with
  | start =>
      by_cases absent : watcher.task = .absent
      · rw [step, start_absent absent]
        exact iff_of_true rfl ⟨rfl, absent⟩
      · rw [step, start_held absent]
        exact iff_of_false nofun fun opened => absent opened.2
  | stop =>
      rw [step, stop_opens]
      exact iff_of_false nofun nofun
  | firstTurn | changes _ | sourceEnds _ =>
      rw [(delivery_held onChange watcher rfl).2]
      exact iff_of_false nofun nofun

private theorem held_step (watcher : Watcher σ) (event : Event) :
    (watcher.step onChange event).watcher.task ≠ .absent ↔
      event = .start ∨ watcher.task ≠ .absent ∧
        ¬ (event = .stop ∧ (watcher.step onChange event).raised = none) := by
  cases event with
  | start =>
      by_cases absent : watcher.task = .absent
      · rw [step, start_absent absent]
        exact iff_of_true nofun (.inl rfl)
      · rw [step, start_held absent]
        exact iff_of_true absent (.inl rfl)
  | stop =>
      simp only [step, reduceCtorEq, false_or, true_and]
      by_cases completed : watcher.stop.raised = none
      · exact iff_of_false (fun held => held (stop_completed completed)) fun held => held.2 completed
      · obtain ⟨failure, failed⟩ := stop_raised_iff.mp completed
        rw [stop_failed failed, failed]
        exact iff_of_true nofun ⟨nofun, nofun⟩
  | firstTurn | changes _ | sourceEnds _ =>
      rw [ne_eq, (delivery_held onChange watcher rfl).1]
      simp

private theorem startedSinceStop_concat :
    StartedSinceStop onChange watcher (events ++ [event]) ↔
      event = .start ∨ StartedSinceStop onChange watcher events ∧
        ¬ (event = .stop ∧
          ((watcher.run onChange events).watcher.step onChange event).raised = none) := by
  constructor
  · rintro ⟨before, after, split, unstopped⟩
    rcases concat_eq_split.mp split with ⟨_, last, _⟩ | ⟨earlier, rfl, rfl⟩
    · exact .inl last
    · refine .inr ⟨⟨before, earlier, rfl, ?_⟩, ?_⟩
      · intro between rest inner
        exact unstopped between (rest ++ [event]) (concat_eq_split.mpr (.inr ⟨rest, rfl, inner⟩))
      · rintro ⟨rfl, completed⟩
        exact unstopped earlier [] rfl completed
  · rintro (rfl | ⟨⟨before, after, rfl, unstopped⟩, incomplete⟩)
    · exact ⟨events, [], rfl, by simp⟩
    · refine ⟨before, after ++ [event], concat_eq_split.mpr (.inr ⟨after, rfl, rfl⟩), ?_⟩
      intro between rest split completed
      rcases concat_eq_split.mp split with ⟨rfl, last, _⟩ | ⟨earlier, _, inner⟩
      · exact incomplete ⟨last, last ▸ completed⟩
      · exact unstopped between earlier inner completed

/-- A session is held exactly if a start happened since the last completed stop. -/
theorem held_run (fresh : watcher.task = .absent) (events : List Event) :
    (watcher.run onChange events).watcher.task ≠ .absent ↔
      StartedSinceStop onChange watcher events := by
  induction events using List.reverseRecOn with
  | nil =>
      have unstarted : ¬ StartedSinceStop onChange watcher [] := by
        rintro ⟨before, after, split, _⟩
        simp at split
      exact iff_of_false (fun held => held fresh) unstarted
  | append_singleton events event ih =>
      rw [run_concat, held_step, startedSinceStop_concat, ih]

inductive Roster (task : Task) : List Task → Prop
  | none (absent : task = .absent) : Roster task []
  | latest {older : List Task} (ended : ∀ session ∈ older, session.isLive = false) :
      Roster task (task :: older)

private theorem Roster.over_of_absent {task : Task} {sessions : List Task}
    (roster : Roster task sessions)
    (absent : task = .absent) : ∀ session ∈ sessions, session.isLive = false := by
  cases roster with
  | none => exact nofun
  | latest ended =>
      intro session member
      rcases List.mem_cons.mp member with rfl | member
      · rw [absent]
        rfl
      · exact ended session member

private theorem Roster.live_le_one {task : Task} {sessions : List Task}
    (roster : Roster task sessions) :
    sessions.countP Task.isLive ≤ 1 := by
  cases roster with
  | none => exact Nat.zero_le 1
  | @latest older ended =>
      have others : older.countP Task.isLive = 0 :=
        List.countP_eq_zero.mpr fun session member => by simp [ended session member]
      rw [List.countP_cons, others]
      split <;> omega

/-- An event keeps the roster of sessions. -/
theorem roster_step {past : List Task} (roster : Roster watcher.task past) (event : Event) :
    let next := watcher.step onChange event
    Roster next.watcher.task (next.enroll past) := by
  intro next
  rw [Stepped.enroll]
  cases opened : next.opens with
  | true =>
      obtain ⟨_, absent⟩ := (opens_iff onChange).mp opened
      exact .latest (roster.over_of_absent absent)
  | false =>
      cases roster with
      | latest ended => exact .latest ended
      | none absent =>
          refine .none ?_
          by_contra held
          rcases (held_step onChange watcher event).mp held with start | ⟨held, _⟩
          · have opens : next.opens = true := (opens_iff onChange).mpr ⟨start, absent⟩
            exact absurd (opens.symm.trans opened) (by decide)
          · exact held absent

private theorem roster_run {past : List Task} (roster : Roster watcher.task past)
    (events : List Event) :
    Roster (watcher.run onChange events).watcher.task
      (watcher.sessionsFrom onChange past events) := by
  induction events generalizing watcher past with
  | nil => exact roster
  | cons event rest ih => exact ih (roster_step onChange roster event)

/-- Where no session is held there is room for one. An event that opens a session takes the room that
is there, and only a stop that lets go of a session makes room. -/
theorem room_step (watcher : Watcher σ) (event : Event) :
    let next := watcher.step onChange event
    (if next.opens then 1 else 0) + (if next.watcher.task = .absent then 1 else 0) ≤
      (if event = .stop ∧ watcher.task ≠ .absent ∧ next.raised = none then 1 else 0) +
        (if watcher.task = .absent then 1 else 0) := by
  intro next
  have held := held_step onChange watcher event
  by_cases opened : next.opens = true
  · obtain ⟨start, absent⟩ := (opens_iff onChange).mp opened
    rw [if_pos opened, if_neg (held.mpr (.inl start)), if_pos absent]
    exact Nat.le_add_left 1 _
  · rw [if_neg opened]
    by_cases absent : next.watcher.task = .absent
    · by_cases before : watcher.task = .absent
      · rw [if_pos absent, if_pos before]
        omega
      · have completed : event = .stop ∧ next.raised = none := by
          by_contra incomplete
          exact held.mpr (.inr ⟨before, incomplete⟩) absent
        rw [if_pos absent, if_pos ⟨completed.1, before, completed.2⟩]
        omega
    · rw [if_neg absent]
      exact Nat.zero_le _

private theorem enroll_length (next : Stepped σ) (past : List Task) :
    (next.enroll past).length = (if next.opens then 1 else 0) + past.length := by
  rw [Stepped.enroll]
  split
  · rw [List.length_cons, Nat.add_comm]
  · rw [List.length_modifyHead, Nat.zero_add]

private theorem sessionsFrom_length (watcher : Watcher σ) (past : List Task) (events : List Event) :
    (watcher.sessionsFrom onChange past events).length ≤
      past.length + watcher.completedStops onChange events +
        (if watcher.task = .absent then 1 else 0) := by
  induction events generalizing watcher past with
  | nil => exact Nat.le_add_right _ _
  | cons event rest ih =>
      have room := room_step onChange watcher event
      have later := ih (watcher.step onChange event).watcher
        ((watcher.step onChange event).enroll past)
      have counted : watcher.completedStops onChange (event :: rest) =
          (watcher.step onChange event).watcher.completedStops onChange rest +
            (if event = .stop ∧ watcher.task ≠ .absent ∧
              (watcher.step onChange event).raised = none then 1 else 0) := by
        rw [completedStops]
        split <;> rfl
      rw [enroll_length] at later
      rw [sessionsFrom, counted]
      omega

private theorem run_absent (absent : watcher.task = .absent) (unstarted : .start ∉ events) :
    watcher.run onChange events = watcher.quiet := by
  induction events with
  | nil => rfl
  | cons event rest ih =>
      rw [List.mem_cons, not_or] at unstarted
      have still : watcher.step onChange event = watcher.quiet := by
        cases event with
        | start => exact absurd rfl unstarted.1
        | stop => exact stop_absent absent
        | firstTurn | changes _ | sourceEnds _ =>
            exact delivery_over onChange rfl (by rw [absent]; rfl)
      rw [run, still]
      simp only [quiet] at ih ⊢
      rw [ih unstarted.2]
      rfl

private theorem run_ended {failure : Option Failure} (ended : watcher.task = .ended failure)
    (unstopped : ∀ between rest, events = between ++ .stop :: rest →
      (watcher.run onChange between).watcher.stop.raised ≠ none) :
    (watcher.run onChange events).watcher = watcher ∧ (watcher.run onChange events).log = [] := by
  induction events with
  | nil => exact ⟨rfl, rfl⟩
  | cons event rest ih =>
      have still : (watcher.step onChange event).watcher = watcher ∧
          (watcher.step onChange event).log = [] := by
        cases event with
        | start =>
            rw [step, start_held (by rw [ended]; nofun)]
            exact ⟨rfl, rfl⟩
        | stop =>
            have incomplete : watcher.stop.raised ≠ none := unstopped [] rest rfl
            obtain ⟨other, failed⟩ := stop_raised_iff.mp incomplete
            rw [step, stop_failed failed]
            exact ⟨rfl, rfl⟩
        | firstTurn | changes _ | sourceEnds _ =>
            rw [delivery_over onChange rfl (by rw [ended]; rfl)]
            exact ⟨rfl, rfl⟩
      have later := ih fun between others split => by
        have earlier := unstopped (event :: between) others (by rw [split]; rfl)
        rwa [run, still.1] at earlier
      rw [run, still.1, still.2]
      exact later

private theorem run_deliveries (watcher : Watcher σ)
    (delivered : ∀ event ∈ events, event.isDelivery = true) :
    ((watcher.run onChange events).watcher.task = .absent ↔ watcher.task = .absent) ∧
      (watcher.run onChange events).opens = false := by
  induction events generalizing watcher with
  | nil => exact ⟨Iff.rfl, rfl⟩
  | cons event rest ih =>
      have now := delivery_held onChange watcher (delivered event List.mem_cons_self)
      have later := ih (watcher.step onChange event).watcher
        fun other member => delivered other (List.mem_cons_of_mem event member)
      refine ⟨later.1.trans now.1, ?_⟩
      calc (watcher.run onChange (event :: rest)).opens
          = ((watcher.step onChange event).opens ||
              ((watcher.step onChange event).watcher.run onChange rest).opens) := List.any_append
        _ = false := by rw [now.2, later.2, Bool.or_self]

/-- What a session hears while it is waited for: it comes to its first turn if it did not yet, and its
source ends if nothing ended the session before. -/
def turns (meanwhile : List Event) : List Event :=
  .firstTurn :: meanwhile ++ [.sourceEnds none]

private theorem turns_delivered {meanwhile : List Event}
    (delivered : ∀ event ∈ meanwhile, event.isDelivery = true) :
    ∀ event ∈ turns meanwhile, event.isDelivery = true := by
  intro event member
  rw [turns, List.mem_append, List.mem_cons, List.mem_singleton] at member
  rcases member with (rfl | heard) | rfl
  · rfl
  · exact delivered event heard
  · rfl

private theorem wait_run (watcher : Watcher σ) (meanwhile : List Event) :
    (watcher.wait onChange meanwhile).watcher =
        (watcher.run onChange (turns meanwhile)).watcher ∧
      (watcher.wait onChange meanwhile).log = (watcher.run onChange (turns meanwhile)).log := by
  rw [wait, turns]
  split <;> exact ⟨rfl, rfl⟩

private theorem wait_absent {meanwhile : List Event} (absent : watcher.task = .absent)
    (delivered : ∀ event ∈ meanwhile, event.isDelivery = true) :
    watcher.wait onChange meanwhile = watcher.quiet := by
  have unstarted : .start ∉ turns meanwhile := by
    intro member
    exact absurd (turns_delivered delivered .start member) (by decide)
  have unmoved := run_absent onChange absent unstarted
  rw [turns] at unmoved
  rw [wait, unmoved]
  simp only [quiet, absent]

/-- What holds at any moment of a run, with all that may come next. -/
structure Lifecycle (onChange : Callback σ) (watcher : Watcher σ) (events : List Event) : Prop where
  /-- At most one of the sessions that were opened is alive. -/
  alive : (watcher.sessionsFrom onChange [] events).countP Task.isLive ≤ 1
  /-- There are no more of them than completed stops, but for one. -/
  opened : (watcher.sessionsFrom onChange [] events).length ≤
    watcher.completedStops onChange events + 1
  /-- A session is held exactly if a start happened since the last completed stop. -/
  held : (watcher.run onChange events).watcher.task ≠ .absent ↔
    StartedSinceStop onChange watcher events
  /-- An event opens a session exactly if it is a start and there was none since that stop. -/
  opens : ∀ event, ((watcher.run onChange events).watcher.step onChange event).opens = true ↔
    event = .start ∧ ¬ StartedSinceStop onChange watcher events
  /-- Another start changes nothing. -/
  starts : StartedSinceStop onChange watcher events →
    let now := (watcher.run onChange events).watcher
    now.start = now.quiet
  /-- Without a session, stops and waits change nothing. -/
  idles : ¬ StartedSinceStop onChange watcher events →
    let now := (watcher.run onChange events).watcher
    now.stop = now.quiet ∧ ∀ meanwhile, (∀ event ∈ meanwhile, event.isDelivery = true) →
      now.wait onChange meanwhile = now.quiet
  /-- To wait is to take deliveries; it opens no session and lets go of none. -/
  waits : ∀ meanwhile, (∀ event ∈ meanwhile, event.isDelivery = true) →
    let now := (watcher.run onChange events).watcher
    let waited := now.wait onChange meanwhile
    waited.watcher = (now.run onChange (turns meanwhile)).watcher ∧
      waited.log = (now.run onChange (turns meanwhile)).log ∧ waited.opens = false ∧
      (waited.watcher.task = .absent ↔ now.task = .absent)
  /-- When a stop completes no session is held, and until a start nothing is called back. -/
  stops : let stopped := (watcher.run onChange events).watcher.stop
    stopped.raised = none → stopped.watcher.task = .absent ∧
      ∀ later, .start ∉ later → stopped.watcher.run onChange later = stopped.watcher.quiet
  /-- A session that ended stays as it is, starts or not, until a stop completes. -/
  ended : ∀ failure, let now := (watcher.run onChange events).watcher
    now.task = .ended failure → ∀ later,
      (∀ between rest, later = between ++ .stop :: rest →
        (now.run onChange between).watcher.stop.raised ≠ none) →
      (now.run onChange later).watcher = now ∧ (now.run onChange later).log = []

/-- Whatever a watcher without a session goes through, in whatever order, and whatever becomes of the
calls back, its sessions follow one another as they should. -/
theorem lifecycle_of_run (fresh : watcher.task = .absent) (events : List Event) :
    Lifecycle onChange watcher events := by
  have held := held_run onChange fresh events
  have released : (watcher.run onChange events).watcher.task = .absent ↔
      ¬ StartedSinceStop onChange watcher events := by
    rw [← held, not_not]
  have counted := sessionsFrom_length onChange watcher [] events
  rw [if_pos fresh, List.length_nil, Nat.zero_add] at counted
  constructor
  case alive => exact (roster_run onChange (.none fresh) events).live_le_one
  case opened => exact counted
  case held => exact held
  case opens =>
    intro event
    rw [opens_iff, released]
  case starts => exact fun started => start_held (held.mpr started)
  case idles =>
    intro unstarted
    have absent := released.mpr unstarted
    exact ⟨stop_absent absent, fun meanwhile delivered => wait_absent onChange absent delivered⟩
  case waits =>
    intro meanwhile delivered now waited
    have taken := wait_run onChange now meanwhile
    have kept := run_deliveries onChange now (turns_delivered delivered)
    refine ⟨taken.1, taken.2, ?_, ?_⟩
    · rw [Stepped.opens, taken.2]
      exact kept.2
    · rw [taken.1]
      exact kept.1
  case stops =>
    intro stopped completed
    have absent := stop_completed completed
    exact ⟨absent, fun later unstarted => run_absent onChange absent unstarted⟩
  case ended =>
    intro failure now ended later unstopped
    exact run_ended onChange ended unstopped

def counter : Watcher Nat where
  schema := ⟨.current, ["schema.json"]⟩
  resolver := fun _ => .lexical ["work"]
  task := .absent
  watched := []
  surroundings := 0

def countCall : Callback Nat := fun _ calls => (calls + 1, true)

/-- Of three starts the second finds a session; the last one opens the second session. -/
theorem counter_lifecycle :
    let events : List Event := [.stop, .start, .start, .firstTurn, .changes [counter.schema],
      .sourceEnds none, .stop, .changes [counter.schema], .start]
    counter.task = .absent ∧ Lifecycle countCall counter events ∧
      counter.sessionsFrom countCall [] events = [.readied, .absent] ∧
      counter.completedStops countCall events = 1 ∧
      (counter.run countCall events).watcher.surroundings = 1 := by
  intro events
  refine ⟨rfl, lifecycle_of_run countCall rfl events, ?_, ?_, ?_⟩ <;> decide +kernel

end Watcher
end Watch
end ModelViews
