import TrafficMeter.Poll.Scheduler
import TrafficMeter.Proofs.Poll.Interruption

/-! # What happens to a scheduler between the moments of its loop

A started loop runs beside those who start, ask and dispose of it, and they may come at
any of its moments: before it looks whether it may poll, during a poll, after the end. A
look together with the poll or the sleep that follows it is one step, and so is a disposal.

What has happened so far decides the lifecycle, the answer to a start, and whether the
loop may still poll or sleep.
-/

namespace TrafficMeter.Poll

/-- Where a loop is between two steps. -/
inductive Moment where
  /-- Before it looks whether it has been cancelled, with these polls left. -/
  | looking (polls : List Outcome)
  /-- Inside a poll, for as long as that takes. -/
  | polling (poll : Outcome) (polls : List Outcome)
  | done

/-- The polls that are left to a loop that is not over. -/
@[simp] def Moment.left? : Moment → Option (List Outcome)
  | looking left | polling _ left => some left
  | done => none

/-- The polls that a script makes; past its end a poll is cancelled. -/
def course (script : List Scripted) : List Outcome :=
  script.map Scripted.outcome ++ [.cancellation]

structure Worker where
  loop : Loop
  moment : Moment

/-- A scheduler with the loop that it has started, at any moment of it. -/
structure Situation where
  interval : Span
  lifecycle : Lifecycle
  worker : Option Worker

namespace Worker

def new (interval : Span) (script : List Scripted) : Worker :=
  ⟨.new interval, .looking (course script)⟩

def cancel (worker : Worker) : Worker :=
  { worker with loop := { worker.loop with cancelled := true } }

end Worker

namespace Situation

def fresh (interval : Span) : Situation := ⟨interval, .notStarted, none⟩

def dispose (situation : Situation) : Situation :=
  { situation with
    lifecycle := .disposed
    worker := situation.worker.map Worker.cancel }

end Situation

inductive Event where
  | start (script : List Scripted) (answer : Except StartError Unit)
  | lifecycle (answer : Lifecycle)
  /-- The scheduler is disposed of, by the poll under way or by somebody else. -/
  | dispose (inside : Bool)
  | poll (poll : Outcome)
  /-- The poll under way returns and the loop sleeps. -/
  | sleep (delay : Span)
  | finish

/-- What can happen next. -/
inductive Step : Situation → Event → Situation → Prop where
  | ask {situation : Situation} :
      Step situation (.lifecycle situation.lifecycle) situation
  | start {situation : Situation} {script : List Scripted} {lifecycle : Lifecycle}
      (starts : situation.lifecycle.start = .ok lifecycle) :
      Step situation (.start script (.ok ()))
        { situation with lifecycle, worker := some (.new situation.interval script) }
  | refuse {situation : Situation} {script : List Scripted} {cause : StartError}
      (refused : situation.lifecycle.start = .error cause) :
      Step situation (.start script (.error cause)) situation
  | dispose {situation : Situation} : Step situation (.dispose false) situation.dispose
  | disposeInside {situation : Situation} {loop : Loop} {poll : Outcome}
      {polls : List Outcome} (polling : situation.worker = some ⟨loop, .polling poll polls⟩)
      (cancels : poll.cancels = true) :
      Step situation (.dispose true) situation.dispose
  | poll {situation : Situation} {loop : Loop} {poll : Outcome} {polls : List Outcome}
      (looking : situation.worker = some ⟨loop, .looking (poll :: polls)⟩)
      (uncancelled : loop.cancelled = false) :
      Step situation (.poll poll)
        { situation with worker := some ⟨loop.enter, .polling poll polls⟩ }
  | close {situation : Situation} {loop : Loop} {polls : List Outcome}
      (looking : situation.worker = some ⟨loop, .looking polls⟩)
      (cancelled : loop.cancelled = true) :
      Step situation .finish { situation with worker := some ⟨loop, .done⟩ }
  | sleep {situation : Situation} {loop : Loop} {poll : Outcome} {polls : List Outcome}
      (polling : situation.worker = some ⟨loop, .polling poll polls⟩)
      (cancels : poll.cancels = true → loop.cancelled = true)
      (going : (loop.leave poll).ended = false) :
      Step situation (.sleep (next loop.interval poll.takes).delay)
        { situation with worker := some ⟨loop.leave poll, .looking polls⟩ }
  | finish {situation : Situation} {loop : Loop} {poll : Outcome} {polls : List Outcome}
      (polling : situation.worker = some ⟨loop, .polling poll polls⟩)
      (cancels : poll.cancels = true → loop.cancelled = true)
      (ended : (loop.leave poll).ended = true) :
      Step situation .finish { situation with worker := some ⟨loop.leave poll, .done⟩ }

inductive Steps : Situation → List Event → Situation → Prop where
  | nil (situation : Situation) : Steps situation [] situation
  | cons {first second last : Situation} {event : Event} {events : List Event} :
      Step first event second → Steps second events last →
      Steps first (event :: events) last

namespace Steps

variable {first second last : Situation} {earlier later : List Event}

theorem append (early : Steps first earlier second) (late : Steps second later last) :
    Steps first (earlier ++ later) last := by
  induction early with
  | nil => exact late
  | cons step _ ih => exact .cons step (ih late)

theorem split (steps : Steps first (earlier ++ later) last) :
    ∃ second, Steps first earlier second ∧ Steps second later last := by
  induction earlier generalizing first with
  | nil => exact ⟨first, .nil first, steps⟩
  | cons event earlier ih =>
      cases steps with
      | cons step rest =>
          obtain ⟨second, early, late⟩ := ih rest
          exact ⟨second, .cons step early, late⟩

end Steps

/-! ## What the events so far say -/

namespace Event

def started? : Event → Option (List Scripted)
  | start script (.ok ()) => some script
  | _ => none

def answer? : Event → Option Lifecycle
  | lifecycle answer => some answer
  | _ => none

def poll? : Event → Option Outcome
  | poll outcome => some outcome
  | _ => none

def sleep? : Event → Option Span
  | sleep delay => some delay
  | _ => none

def isDisposal : Event → Bool
  | dispose _ => true
  | _ => false

section Histories

variable (events : List Event)

def started : List (List Scripted) := events.filterMap started?

def answers : List Lifecycle := events.filterMap answer?

def polls : List Outcome := events.filterMap poll?

def sleeps : List Span := events.filterMap sleep?

def disposed : Bool := events.any isDisposal

/-- The lifecycle that the events so far lead to. -/
def lifecycleAfter : Lifecycle :=
  if disposed events then .disposed
  else if (started events).isEmpty then .notStarted
  else .running

end Histories

section Histories

variable {α : Type} (part : Event → Option α) (event : Event) (events : List Event)

theorem filterMap_cons_toList :
    (event :: events).filterMap part = (part event).toList ++ events.filterMap part := by
  cases found : part event <;> simp [found]

theorem filterMap_snoc_toList :
    (events ++ [event]).filterMap part = events.filterMap part ++ (part event).toList := by
  rw [List.filterMap_append, filterMap_cons_toList, List.filterMap_nil, List.append_nil]

@[simp] theorem answers_cons :
    answers (event :: events) = event.answer?.toList ++ answers events :=
  filterMap_cons_toList ..

@[simp] theorem polls_cons :
    polls (event :: events) = event.poll?.toList ++ polls events :=
  filterMap_cons_toList ..

@[simp] theorem sleeps_cons :
    sleeps (event :: events) = event.sleep?.toList ++ sleeps events :=
  filterMap_cons_toList ..

@[simp] theorem started_snoc :
    started (events ++ [event]) = started events ++ event.started?.toList :=
  filterMap_snoc_toList ..

@[simp] theorem polls_snoc :
    polls (events ++ [event]) = polls events ++ event.poll?.toList :=
  filterMap_snoc_toList ..

@[simp] theorem sleeps_snoc :
    sleeps (events ++ [event]) = sleeps events ++ event.sleep?.toList :=
  filterMap_snoc_toList ..

@[simp] theorem disposed_snoc :
    disposed (events ++ [event]) = (disposed events || event.isDisposal) := by
  simp [disposed]

end Histories

end Event

open Event

/-- What a loop has done agrees with the events since its start, and if it still is on its
way, then what it has left does. -/
structure Worker.Accounts (script : List Scripted) (events : List Event) (worker : Worker) :
    Prop where
  cancelled : worker.loop.cancelled = disposed events
  entries : worker.loop.entries.size = (polls events).length
  sleeps : worker.loop.sleeps.toList = sleeps events
  within : polls events <+: course script
  onWay : ∀ left, worker.moment.left? = some left →
    worker.loop.ended = false ∧ polls events ++ left = course script

/-- The events so far account for everything that a situation shows. -/
structure Situation.Accounts (events : List Event) (situation : Situation) : Prop where
  lifecycle : situation.lifecycle = lifecycleAfter events
  idle : situation.worker = none →
    started events = [] ∧ polls events = [] ∧ sleeps events = []
  busy : ∀ worker, situation.worker = some worker →
    ∃ script, started events = [script] ∧ worker.Accounts script events

theorem Lifecycle.start_eq_ok_iff {before after : Lifecycle} :
    before.start = .ok after ↔ before = .notStarted ∧ after = .running := by
  cases before <;> cases after <;> simp [Lifecycle.start]

theorem Loop.leave_cancelled (loop : Loop) (outcome : Outcome) :
    (loop.leave outcome).cancelled = (loop.cancelled || outcome.cancels) := by
  unfold leave
  dsimp only
  split
  · rfl
  · split <;> rfl

/-- A poll that cancels the loop has done so when it returns. -/
theorem Loop.leave_cancelled_of_known {loop : Loop} {outcome : Outcome}
    (known : outcome.cancels = true → loop.cancelled = true) :
    (loop.leave outcome).cancelled = loop.cancelled := by
  rw [leave_cancelled]
  cases cancels : outcome.cancels with
  | false => simp
  | true => simp [known cancels]

theorem lifecycleAfter_eq_notStarted_iff {events : List Event} :
    lifecycleAfter events = .notStarted ↔ started events = [] ∧ disposed events = false := by
  unfold lifecycleAfter
  cases disposed events <;> cases started events <;> simp

theorem lifecycleAfter_eq_running_iff {events : List Event} :
    lifecycleAfter events = .running ↔ started events ≠ [] ∧ disposed events = false := by
  unfold lifecycleAfter
  cases disposed events <;> cases started events <;> simp

theorem lifecycleAfter_eq_disposed_iff {events : List Event} :
    lifecycleAfter events = .disposed ↔ disposed events = true := by
  unfold lifecycleAfter
  cases disposed events <;> cases started events <;> simp

namespace Situation.Accounts

variable {situation next : Situation} {events : List Event} {event : Event}

theorem fresh (interval : Span) : (Situation.fresh interval).Accounts [] := by
  refine ⟨rfl, fun _ => ⟨rfl, rfl, rfl⟩, ?_⟩
  rintro worker ⟨⟩

/-- Asking and a start that is refused leave everything as it is. -/
theorem silent (accounts : situation.Accounts events) (starts : event.started? = none)
    (disposes : event.isDisposal = false) (polls : event.poll? = none)
    (sleeps : event.sleep? = none) : situation.Accounts (events ++ [event]) := by
  obtain ⟨lifecycle, idle, busy⟩ := accounts
  refine ⟨?_, ?_, ?_⟩
  · simpa [lifecycleAfter, starts, disposes] using lifecycle
  · simpa [starts, polls, sleeps] using idle
  · intro worker present
    obtain ⟨script, only, accounts⟩ := busy worker present
    obtain ⟨cancelled, entries, slept, within, onWay⟩ := accounts
    refine ⟨script, by simpa [starts] using only, ?_⟩
    constructor <;> simpa [disposes, polls, sleeps]

theorem start {lifecycle : Lifecycle} (accounts : situation.Accounts events)
    (starts : situation.lifecycle.start = .ok lifecycle) (script : List Scripted) :
    { situation with lifecycle, worker := some (.new situation.interval script) }.Accounts
      (events ++ [Event.start script (.ok ())]) := by
  obtain ⟨before, rfl⟩ := Lifecycle.start_eq_ok_iff.mp starts
  have unused := lifecycleAfter_eq_notStarted_iff.mp (accounts.lifecycle.symm.trans before)
  have vacant : situation.worker = none := by
    cases present : situation.worker with
    | none => rfl
    | some worker =>
        obtain ⟨earlier, only, _⟩ := accounts.busy worker present
        simp [unused.1] at only
  obtain ⟨_, unpolled, unslept⟩ := accounts.idle vacant
  refine ⟨?_, by simp, ?_⟩
  · simp [lifecycleAfter, isDisposal, started?, unused.2]
  · rintro _ ⟨rfl⟩
    refine ⟨script, by simp [started?, unused.1], ?_⟩
    constructor <;>
      simp [isDisposal, poll?, sleep?, unused.2, unpolled, unslept, Worker.new, Loop.new]

theorem dispose (accounts : situation.Accounts events) (inside : Bool) :
    situation.dispose.Accounts (events ++ [Event.dispose inside]) := by
  refine ⟨?_, ?_, ?_⟩
  · simp [Situation.dispose, lifecycleAfter, isDisposal]
  · simpa [Situation.dispose, started?, poll?, sleep?] using accounts.idle
  · intro worker present
    obtain ⟨earlier, before, rfl⟩ := Option.map_eq_some_iff.mp present
    obtain ⟨script, only, accounts⟩ := accounts.busy earlier before
    obtain ⟨_, entries, slept, within, onWay⟩ := accounts
    refine ⟨script, by simpa [started?] using only, ?_⟩
    refine ⟨by simp [Worker.cancel, isDisposal], ?_, ?_, ?_, ?_⟩
    · simpa [Worker.cancel, poll?] using entries
    · simpa [Worker.cancel, sleep?] using slept
    · simpa [poll?] using within
    · simpa [Worker.cancel, poll?] using onWay

/-- A loop on its own goes on from one moment to the next. -/
theorem advance {worker moved : Worker} (accounts : situation.Accounts events)
    (present : situation.worker = some worker) (starts : event.started? = none)
    (disposes : event.isDisposal = false)
    (moves : ∀ script, worker.Accounts script events →
      moved.Accounts script (events ++ [event])) :
    { situation with worker := some moved }.Accounts (events ++ [event]) := by
  refine ⟨?_, by simp, ?_⟩
  · simpa [lifecycleAfter, starts, disposes] using accounts.lifecycle
  · rintro _ ⟨rfl⟩
    obtain ⟨script, only, kept⟩ := accounts.busy worker present
    exact ⟨script, by simpa [starts] using only, moves script kept⟩

theorem step (accounts : situation.Accounts events) (step : Step situation event next) :
    next.Accounts (events ++ [event]) := by
  cases step with
  | ask | refuse => exact accounts.silent rfl rfl rfl rfl
  | start starts => exact accounts.start starts _
  | dispose | disposeInside => exact accounts.dispose _
  | @poll loop poll left looking uncancelled =>
      refine accounts.advance looking rfl rfl ?_
      rintro script ⟨cancelled, entries, slept, within, onWay⟩
      obtain ⟨going, rest⟩ := onWay _ rfl
      have further : polls events ++ [poll] ++ left = course script := by simpa using rest
      refine ⟨?_, ?_, ?_, ?_, ?_⟩
      · simpa [isDisposal, Loop.enter] using cancelled
      · simpa [poll?, Loop.enter] using entries
      · simpa [sleep?, Loop.enter] using slept
      · simpa [poll?] using further ▸ List.prefix_append _ left
      · simpa [poll?, Loop.enter] using And.intro going rest
  | close looking cancelled =>
      refine accounts.advance looking rfl rfl ?_
      rintro script ⟨cancelled, entries, slept, within, onWay⟩
      refine ⟨?_, ?_, ?_, ?_, by simp⟩
      · simpa [isDisposal] using cancelled
      · simpa [poll?] using entries
      · simpa [sleep?] using slept
      · simpa [poll?] using within
  | sleep polling cancels going =>
      refine accounts.advance polling rfl rfl ?_
      rintro script ⟨cancelled, entries, slept, within, onWay⟩
      have still := Loop.leave_cancelled_of_known cancels
      obtain ⟨_, rest⟩ := onWay _ rfl
      refine ⟨?_, ?_, ?_, ?_, ?_⟩
      · simpa [isDisposal, still] using cancelled
      · simpa [poll?] using entries
      · simpa [sleep?, Loop.leave_of_going going] using slept
      · simpa [poll?] using within
      · simpa [poll?, going] using rest
  | finish polling cancels ended =>
      refine accounts.advance polling rfl rfl ?_
      rintro script ⟨cancelled, entries, slept, within, onWay⟩
      have still := Loop.leave_cancelled_of_known cancels
      have unslept := Loop.leave_sleeps_of_ended (onWay _ rfl).1 ended
      refine ⟨?_, ?_, ?_, ?_, by simp⟩
      · simpa [isDisposal, still] using cancelled
      · simpa [poll?] using entries
      · simpa [sleep?, unslept] using slept
      · simpa [poll?] using within

theorem steps {last : Situation} {later : List Event} (accounts : situation.Accounts events)
    (steps : Steps situation later last) : last.Accounts (events ++ later) := by
  induction steps generalizing events with
  | nil => simpa using accounts
  | cons first _ ih => simpa using ih (accounts.step first)

end Situation.Accounts

end TrafficMeter.Poll
