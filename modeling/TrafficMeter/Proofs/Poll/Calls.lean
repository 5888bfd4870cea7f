import TrafficMeter.Proofs.Poll.Endings
import TrafficMeter.Proofs.Poll.Moments

/-! # Calls on a scheduler

A scheduler whose polls stand still until they are released takes one call after the other,
and its loop goes on by itself as far as it can in between. Whatever it is called, what
happens to it happens step by step, its loop is on the way of the one script that it has
started, and after a disposal no call gets that loop any further.
-/

namespace TrafficMeter.Poll

open Event (started)

/-- What somebody can do with a scheduler, or with the poll that stands still in it. -/
inductive Call where
  | start (script : List Scripted)
  | lifecycle
  | dispose
  | release

namespace Event

/-- Whether the event is a call, and not the loop's own doing. -/
def isCall : Event → Bool
  | start _ _ | lifecycle _ | dispose false => true
  | _ => false

end Event

def Standing.moment : Standing → Moment
  | held poll script => .polling poll (course script)
  | ended => .done

def Active.worker (active : Active) : Worker := ⟨active.loop, active.standing.moment⟩

namespace Scheduler

def situation (scheduler : Scheduler) : Situation :=
  ⟨scheduler.interval, scheduler.lifecycle, scheduler.active.map Active.worker⟩

/-- The scheduler after a call; a start that fails leaves it as it is. -/
def perform (scheduler : Scheduler) : Call → Scheduler
  | .start script =>
      match scheduler.start script with
      | .ok started => started
      | .error _ => scheduler
  | .lifecycle => scheduler
  | .dispose => scheduler.dispose
  | .release => scheduler.release

/-- A call with what it is answered. -/
def reply? (scheduler : Scheduler) : Call → Option Event
  | .start script => some (.start script ((scheduler.start script).map fun _ => ()))
  | .lifecycle => some (.lifecycle scheduler.lifecycle)
  | .dispose => some (.dispose false)
  | .release => none

def run (scheduler : Scheduler) (calls : List Call) : Scheduler := calls.foldl perform scheduler

def replies (scheduler : Scheduler) : List Call → List Event
  | [] => []
  | call :: calls => (scheduler.reply? call).toList ++ (scheduler.perform call).replies calls

/-- The polls and the sleeps of the loop that has been started. -/
def record (scheduler : Scheduler) : Option (Array Entry × Array Span) :=
  scheduler.active.map fun active => (active.loop.entries, active.loop.sleeps)

/-- The events of calls on a scheduler: each call with its answer, and behind it what the loop
does by itself up to the next one. -/
inductive Lived : Scheduler → List Call → List Event → Prop where
  | nil (scheduler : Scheduler) : Lived scheduler [] []
  | cons {scheduler : Scheduler} {call : Call} {calls : List Call} {own events : List Event}
      (steps : Steps scheduler.situation ((scheduler.reply? call).toList ++ own)
        (scheduler.perform call).situation)
      (alone : own.filter Event.isCall = [])
      (rest : Lived (scheduler.perform call) calls events) :
      Lived scheduler (call :: calls) ((scheduler.reply? call).toList ++ own ++ events)

end Scheduler

/-- A disposal from inside a poll may as well be noticed when the poll returns. -/
theorem Loop.leave_of_cancels (loop : Loop) {poll : Outcome} (cancels : poll.cancels = true) :
    { loop with cancelled := true }.leave poll = loop.leave poll := by
  simp [leave, cancels]

/-- A poll that does not stand still returns as if it were released at once. -/
theorem Active.run_cons (loop : Loop) (poll : Scripted) (script : List Scripted) :
    run loop (poll :: script) =
      let held : Active := ⟨loop.enter, .held poll.outcome script⟩
      if poll.standsStill then held else held.release := rfl

namespace Situation

/-- The loop is as far as that, and a disposal from inside it has been noticed. -/
def settle (situation : Situation) (worker : Worker) : Situation :=
  { situation with
    lifecycle := if worker.loop.cancelled then .disposed else situation.lifecycle
    worker := some worker }

/-- The loop goes on from here to there without any call. -/
def Proceeds (first last : Situation) : Prop :=
  ∃ events, Steps first events last ∧ events.filter Event.isCall = []

namespace Proceeds

variable {first second last : Situation} {event : Event}

theorem of_step (step : Step first event last) (own : event.isCall = false) :
    first.Proceeds last := ⟨[event], .cons step (.nil _), by simp [own]⟩

theorem trans (early : first.Proceeds second) (late : second.Proceeds last) :
    first.Proceeds last := by
  obtain ⟨earlier, steps, own⟩ := early
  obtain ⟨later, stepsOn, ownOn⟩ := late
  exact ⟨earlier ++ later, steps.append stepsOn, by simp [own, ownOn]⟩

end Proceeds

variable {situation : Situation} {loop : Loop} {poll : Outcome} {left : List Outcome}

/-- A poll returns, after a disposal from inside it if it makes one. -/
theorem proceeds_of_polling (polling : situation.worker = some ⟨loop, .polling poll left⟩)
    (noticed : loop.cancelled = true → situation.lifecycle = .disposed) :
    situation.Proceeds (situation.settle ⟨loop.leave poll,
      if (loop.leave poll).ended then .done else .looking left⟩) := by
  cases cancelled : loop.cancelled with
  | true =>
      obtain ⟨ended, still, _⟩ := loop.leave_of_cancelled poll cancelled
      have finishes := Step.finish polling (fun _ => cancelled) ended
      simpa [settle, still, ended, ← noticed cancelled] using Proceeds.of_step finishes rfl
  | false =>
      cases cancels : poll.cancels with
      | true =>
          have disposes := Step.disposeInside polling cancels
          let cancelledLoop : Loop := { loop with cancelled := true }
          have within : situation.dispose.worker =
              some ⟨cancelledLoop, .polling poll left⟩ := by
            simp [Situation.dispose, polling, Worker.cancel, cancelledLoop]
          obtain ⟨ended, still, _⟩ := cancelledLoop.leave_of_cancelled poll rfl
          have finishes := Step.finish within (fun _ => rfl) ended
          rw [Loop.leave_of_cancels loop cancels] at ended still finishes
          have both := (Proceeds.of_step disposes rfl).trans (.of_step finishes rfl)
          simpa [settle, still, ended, Situation.dispose] using both
      | false =>
          have still : (loop.leave poll).cancelled = false := by
            rw [Loop.leave_cancelled, cancelled, cancels]
            rfl
          cases ended : (loop.leave poll).ended with
          | true =>
              have finishes := Step.finish polling (by simp [cancels]) ended
              simpa [settle, still] using Proceeds.of_step finishes rfl
          | false =>
              have sleeps := Step.sleep polling (by simp [cancels]) ended
              simpa [settle, still] using Proceeds.of_step sleeps rfl

@[simp] theorem settle_worker (situation : Situation) (worker : Worker) :
    (situation.settle worker).worker = some worker := rfl

theorem settle_of_noticed {worker : Worker} (present : situation.worker = some worker)
    (noticed : worker.loop.cancelled = true → situation.lifecycle = .disposed) :
    situation.settle worker = situation := by
  rcases situation with ⟨interval, lifecycle, held⟩
  obtain rfl : held = some worker := present
  cases cancelled : worker.loop.cancelled with
  | false => simp [settle, cancelled]
  | true => simp [settle, cancelled, ← noticed cancelled]

theorem settle_settle {first : Worker} (second : Worker)
    (uncancelled : first.loop.cancelled = false) :
    (situation.settle first).settle second = situation.settle second := by
  simp [settle, uncancelled]

theorem proceeds_to_polling (looking : situation.worker = some ⟨loop, .looking (poll :: left)⟩)
    (uncancelled : loop.cancelled = false) :
    situation.Proceeds (situation.settle ⟨loop.enter, .polling poll left⟩) := by
  have polls := Step.poll looking uncancelled
  have still : loop.enter.cancelled = false := uncancelled
  simpa [settle, still] using Proceeds.of_step polls rfl

/-- A poll returns, and the loop goes on from there if it does. -/
theorem proceeds_of_held {script : List Scripted}
    (polling : situation.worker = some ⟨loop, .polling poll (course script)⟩)
    (noticed : loop.cancelled = true → situation.lifecycle = .disposed)
    (further : ∀ {situation : Situation} {loop : Loop},
      situation.worker = some ⟨loop, .looking (course script)⟩ → loop.cancelled = false →
      situation.Proceeds (situation.settle (Active.run loop script).worker)) :
    situation.Proceeds
      (situation.settle (Active.release ⟨loop, .held poll script⟩).worker) := by
  have returns := proceeds_of_polling polling noticed
  cases ended : (loop.leave poll).ended with
  | true => simpa [Active.release, Active.worker, Standing.moment, ended] using returns
  | false =>
      have going : (loop.leave poll).cancelled = false := by rw [Loop.leave_of_going ended]
      have goesOn := further (settle_worker situation
        ⟨loop.leave poll, .looking (course script)⟩) going
      rw [settle_settle _ going] at goesOn
      rw [if_neg (by simp [ended])] at returns
      simpa [Active.release, ended] using returns.trans goesOn

/-- A loop that has not been cancelled makes polls up to one that stands still, or its end. -/
theorem proceeds_of_looking {script : List Scripted}
    (looking : situation.worker = some ⟨loop, .looking (course script)⟩)
    (uncancelled : loop.cancelled = false) :
    situation.Proceeds (situation.settle (Active.run loop script).worker) := by
  induction script generalizing situation loop with
  | nil =>
      have enters := proceeds_to_polling looking uncancelled
      have returns := proceeds_of_polling (settle_worker situation
        ⟨loop.enter, .polling .cancellation []⟩) (by simp [Loop.enter, uncancelled])
      rw [settle_settle _ uncancelled] at returns
      exact enters.trans returns
  | cons poll script ih =>
      have enters := proceeds_to_polling looking uncancelled
      rw [Active.run_cons]
      cases poll.standsStill with
      | true => exact enters
      | false =>
          have returns := proceeds_of_held (settle_worker situation
            ⟨loop.enter, .polling poll.outcome (course script)⟩)
            (by simp [Loop.enter, uncancelled]) ih
          rw [settle_settle _ uncancelled] at returns
          exact enters.trans returns

end Situation

/-- A poll that disposes of the scheduler from inside is the last one, and no sleep follows. -/
theorem Active.Within.disposes {active : Active} {interval : Span} {script : List Scripted}
    (within : active.Within ((Loop.new interval).run (script.map Scripted.outcome)))
    {i : Nat} {poll : Scripted} (there : script[i]? = some poll)
    (cancels : poll.outcome.cancels = true) :
    active.loop.entries.size ≤ i + 1 ∧ active.loop.sleeps.size ≤ i := by
  have made : (Outcome.performed (script.map Scripted.outcome)).length ≤ i + 1 :=
    Outcome.length_performed_le (by simp [there]) (.inl cancels)
  obtain ⟨entered, rested⟩ := (Loop.new_running interval).run_sizes (script.map Scripted.outcome)
  have empty : (Loop.new interval).entries.size = 0 ∧ (Loop.new interval).sleeps.size = 0 :=
    ⟨rfl, rfl⟩
  have entries := within.precedes.entries.length_le
  have sleeps := within.precedes.sleeps.length_le
  rw [Array.length_toList, Array.length_toList] at entries sleeps
  omega

namespace Scheduler

variable {scheduler : Scheduler} {events : List Event}

theorem situation_dispose (scheduler : Scheduler) :
    scheduler.dispose.situation = scheduler.situation.dispose := by
  cases active : scheduler.active with
  | none => simp [situation, dispose, Situation.dispose, active]
  | some active =>
      simp [situation, dispose, Situation.dispose, active, Active.cancel, Active.worker,
        Worker.cancel]

theorem start_of_refused {cause : StartError}
    (refused : scheduler.lifecycle.start = .error cause) (script : List Scripted) :
    scheduler.start script = .error cause := by
  simp [start, refused, bind, Except.bind]

theorem start_of_ok {lifecycle : Lifecycle}
    (starts : scheduler.lifecycle.start = .ok lifecycle) (script : List Scripted) :
    scheduler.start script = .ok ({ scheduler with lifecycle }.settle
      (.run (.new scheduler.interval) script)) := by
  simp [start, starts, bind, Except.bind, pure, Except.pure]

theorem steps_of_start (scheduler : Scheduler) (script : List Scripted) :
    ∃ own, Steps scheduler.situation ((scheduler.reply? (.start script)).toList ++ own)
        (scheduler.perform (.start script)).situation ∧ own.filter Event.isCall = [] := by
  cases answer : scheduler.lifecycle.start with
  | error cause =>
      have refused : Step scheduler.situation (.start script (.error cause)) scheduler.situation :=
        .refuse answer
      refine ⟨[], ?_, rfl⟩
      simpa [perform, reply?, start_of_refused answer, Except.map] using Steps.cons refused (.nil _)
  | ok lifecycle =>
      let begun : Situation := { scheduler.situation with
        lifecycle, worker := some (.new scheduler.interval script) }
      have starts : Step scheduler.situation (.start script (.ok ())) begun := .start answer
      obtain ⟨own, steps, alone⟩ : begun.Proceeds
          (begun.settle (Active.run (.new scheduler.interval) script).worker) :=
        Situation.proceeds_of_looking rfl rfl
      have there : (scheduler.perform (.start script)).situation =
          begun.settle (Active.run (.new scheduler.interval) script).worker := by
        rw [perform, start_of_ok answer]
        rfl
      have replied : scheduler.reply? (.start script) = some (.start script (.ok ())) := by
        rw [reply?, start_of_ok answer]
        rfl
      refine ⟨own, ?_, alone⟩
      rw [there, replied]
      exact .cons starts steps

/-- A poll that stood still returns, and the loop goes on. -/
theorem proceeds_of_release (accounts : scheduler.situation.Accounts events) :
    scheduler.situation.Proceeds scheduler.release.situation := by
  cases running : scheduler.active with
  | none =>
      simp only [release, running]
      exact ⟨[], .nil _, rfl⟩
  | some active =>
      have busy : scheduler.situation.worker = some active.worker := by simp [situation, running]
      have noticed : active.loop.cancelled = true → scheduler.lifecycle = .disposed := by
        intro cancelled
        obtain ⟨_, _, kept⟩ := accounts.busy _ busy
        have done := lifecycleAfter_eq_disposed_iff.mpr (kept.cancelled.symm.trans cancelled)
        exact accounts.lifecycle.trans done
      have there : scheduler.release.situation =
          scheduler.situation.settle active.release.worker := by
        simp only [release, running]
        rfl
      rw [there]
      rcases active with ⟨loop, standing⟩
      cases standing with
      | ended =>
          have same := Situation.settle_of_noticed busy noticed
          exact ⟨[], by rw [Active.release, same]; exact .nil _, rfl⟩
      | held poll script =>
          exact Situation.proceeds_of_held busy noticed Situation.proceeds_of_looking

/-- A call is answered, and the loop goes on as far as it can. -/
theorem steps_of_call (accounts : scheduler.situation.Accounts events) (call : Call) :
    ∃ own, Steps scheduler.situation ((scheduler.reply? call).toList ++ own)
        (scheduler.perform call).situation ∧ own.filter Event.isCall = [] := by
  cases call with
  | start script => exact steps_of_start scheduler script
  | lifecycle => exact ⟨[], .cons .ask (.nil _), rfl⟩
  | dispose =>
      refine ⟨[], .cons .dispose ?_, rfl⟩
      rw [← situation_dispose]
      exact .nil _
  | release => exact proceeds_of_release accounts

theorem exists_lived (accounts : scheduler.situation.Accounts events) (calls : List Call) :
    ∃ later, scheduler.Lived calls later := by
  induction calls generalizing scheduler events with
  | nil => exact ⟨[], .nil _⟩
  | cons call calls ih =>
      obtain ⟨own, steps, alone⟩ := steps_of_call accounts call
      obtain ⟨later, rest⟩ := ih (accounts.steps steps)
      exact ⟨_, .cons steps alone rest⟩

namespace Lived

variable {calls : List Call}

theorem steps (lived : scheduler.Lived calls events) :
    Steps scheduler.situation events (scheduler.run calls).situation := by
  induction lived with
  | nil => exact .nil _
  | cons steps _ _ ih => exact steps.append ih

theorem replied (lived : scheduler.Lived calls events) :
    events.filter Event.isCall = scheduler.replies calls := by
  induction lived with
  | nil => rfl
  | @cons scheduler call calls own events _ alone _ ih =>
      have answer : (scheduler.reply? call).toList.filter Event.isCall =
          (scheduler.reply? call).toList := by
        cases call <;> rfl
      rw [List.filter_append, List.filter_append, answer, alone, ih, List.append_nil]
      rfl

end Lived

/-- Nothing but the poll under way is left to the loop. -/
structure Stopped (scheduler : Scheduler) : Prop where
  disposed : scheduler.lifecycle = .disposed
  cancelled : ∀ active, scheduler.active = some active → active.loop.cancelled = true

theorem stopped_dispose (scheduler : Scheduler) : scheduler.dispose.Stopped := by
  refine ⟨rfl, ?_⟩
  intro active running
  obtain ⟨before, _, rfl⟩ := Option.map_eq_some_iff.mp running
  rfl

theorem stopped_of_disposed (accounts : scheduler.situation.Accounts events)
    (disposed : scheduler.lifecycle = .disposed) : scheduler.Stopped := by
  refine ⟨disposed, ?_⟩
  intro active running
  have busy : scheduler.situation.worker = some active.worker := by simp [situation, running]
  obtain ⟨_, _, kept⟩ := accounts.busy _ busy
  exact kept.cancelled.trans
    (lifecycleAfter_eq_disposed_iff.mp (accounts.lifecycle.symm.trans disposed))

theorem record_dispose (scheduler : Scheduler) : scheduler.dispose.record = scheduler.record := by
  cases running : scheduler.active <;> simp [dispose, record, running, Active.cancel]

namespace Stopped

theorem release (stopped : scheduler.Stopped) :
    scheduler.release.Stopped ∧ scheduler.release.record = scheduler.record := by
  cases running : scheduler.active with
  | none =>
      rw [Scheduler.release, running]
      exact ⟨stopped, rfl⟩
  | some active =>
      have cancelled := stopped.cancelled active running
      obtain ⟨still, entries, sleeps⟩ := Active.release_of_cancelled cancelled
      rw [Scheduler.release, running]
      refine ⟨⟨if_pos still, ?_⟩, ?_⟩
      · rintro _ ⟨rfl⟩
        exact still
      · simp [settle, record, running, entries, sleeps]

/-- No call gets a loop that has been stopped to poll or to sleep once more. -/
theorem perform (stopped : scheduler.Stopped) (call : Call) :
    (scheduler.perform call).Stopped ∧ (scheduler.perform call).record = scheduler.record := by
  cases call with
  | start script =>
      have refused : scheduler.lifecycle.start = .error .disposed := by rw [stopped.disposed]; rfl
      rw [Scheduler.perform, start_of_refused refused]
      exact ⟨stopped, rfl⟩
  | lifecycle => exact ⟨stopped, rfl⟩
  | dispose => exact ⟨stopped_dispose scheduler, record_dispose scheduler⟩
  | release => exact stopped.release

theorem run (stopped : scheduler.Stopped) (calls : List Call) :
    (scheduler.run calls).Stopped ∧ (scheduler.run calls).record = scheduler.record := by
  induction calls generalizing scheduler with
  | nil => exact ⟨stopped, rfl⟩
  | cons call calls ih =>
      obtain ⟨still, same⟩ := stopped.perform call
      obtain ⟨stillOn, sameOn⟩ := ih still
      exact ⟨stillOn, sameOn.trans same⟩

end Stopped

theorem run_append (scheduler : Scheduler) (calls further : List Call) :
    scheduler.run (calls ++ further) = (scheduler.run calls).run further :=
  List.foldl_append

theorem run_stopped {calls : List Call} (disposes : Call.dispose ∈ calls) :
    (scheduler.run calls).Stopped := by
  obtain ⟨before, after, rfl⟩ := List.append_of_mem disposes
  rw [run_append]
  exact ((stopped_dispose (scheduler.run before)).run after).1

theorem refused_of_ne (used : scheduler.lifecycle ≠ .notStarted) :
    ∃ cause, scheduler.lifecycle.start = .error cause := by
  cases answer : scheduler.lifecycle.start with
  | error cause => exact ⟨cause, rfl⟩
  | ok lifecycle => exact absurd (Lifecycle.start_eq_ok_iff.mp answer).1 used

/-- Only the first start can do anything. -/
theorem perform_start_of_ne (used : scheduler.lifecycle ≠ .notStarted) (script : List Scripted) :
    scheduler.perform (.start script) = scheduler := by
  obtain ⟨cause, refused⟩ := refused_of_ne used
  rw [perform, start_of_refused refused]

theorem settle_ne (used : scheduler.lifecycle ≠ .notStarted) (active : Active) :
    (scheduler.settle active).lifecycle ≠ .notStarted := by
  rw [settle]
  split
  · exact Lifecycle.noConfusion
  · exact used

/-- A scheduler that has been started or disposed of, with its loop on the way to `whole`. -/
structure Used (scheduler : Scheduler) (whole : Loop) : Prop where
  used : scheduler.lifecycle ≠ .notStarted
  follows : scheduler.Follows whole

namespace Used

variable {whole : Loop}

/-- No call starts another loop. -/
theorem perform (used : scheduler.Used whole) (call : Call) :
    (scheduler.perform call).Used whole ∧ started (scheduler.reply? call).toList = [] := by
  cases call with
  | start script =>
      obtain ⟨cause, refused⟩ := refused_of_ne used.used
      rw [perform_start_of_ne used.used, reply?, start_of_refused refused]
      exact ⟨used, rfl⟩
  | lifecycle => exact ⟨used, rfl⟩
  | dispose => exact ⟨⟨Lifecycle.noConfusion, used.follows.dispose⟩, rfl⟩
  | release =>
      refine ⟨⟨?_, used.follows.release⟩, rfl⟩
      rw [Scheduler.perform, Scheduler.release]
      split
      · exact used.used
      · exact settle_ne used.used _

theorem run (used : scheduler.Used whole) (calls : List Call) :
    (scheduler.run calls).Used whole ∧ started (scheduler.replies calls) = [] := by
  induction calls generalizing scheduler with
  | nil => exact ⟨used, rfl⟩
  | cons call calls ih =>
      obtain ⟨usedOn, unstarted⟩ := used.perform call
      obtain ⟨usedLast, unstartedOn⟩ := ih usedOn
      refine ⟨usedLast, ?_⟩
      rw [replies, started, List.filterMap_append, ← started, ← started, unstarted, unstartedOn]
      rfl

end Used

/-- The loop of a scheduler is on the way of the one script that has been started. -/
theorem within_of_run (unstarted : scheduler.lifecycle = .notStarted)
    (vacant : scheduler.active = none) {calls : List Call} {active : Active}
    (running : (scheduler.run calls).active = some active) :
    ∃ script, started (scheduler.replies calls) = [script] ∧
      active.Within ((Loop.new scheduler.interval).run (script.map Scripted.outcome)) := by
  induction calls with
  | nil => cases vacant.symm.trans running
  | cons call calls ih =>
      cases call with
      | start script =>
          have starts : scheduler.lifecycle.start = .ok .running := by rw [unstarted]; rfl
          have begun : (scheduler.perform (.start script)).Used
              ((Loop.new scheduler.interval).run (script.map Scripted.outcome)) := by
            rw [perform, start_of_ok starts]
            exact ⟨settle_ne Lifecycle.noConfusion _, follows_run _ script⟩
          obtain ⟨used, alone⟩ := begun.run calls
          refine ⟨script, ?_, used.follows active running⟩
          rw [replies, reply?, start_of_ok starts]
          exact congrArg (script :: ·) alone
      | lifecycle => exact ih running
      | dispose =>
          -- nothing has been started, and nothing will be
          obtain ⟨_, same⟩ := (stopped_dispose scheduler).run calls
          have recorded : (scheduler.dispose.run calls).record = none := by
            rw [same, record_dispose, record, vacant]
            rfl
          rw [record, Option.map_eq_none_iff] at recorded
          cases recorded.symm.trans running
      | release =>
          have same : scheduler.perform .release = scheduler := by
            rw [perform, Scheduler.release, vacant]
          have first : scheduler.replies (.release :: calls) = scheduler.replies calls := by
            rw [replies, same]
            rfl
          rw [first]
          exact ih (same ▸ running)

theorem accounts_of_new {interval : Span} (built : new interval = .ok scheduler) :
    scheduler.situation.Accounts [] := by
  obtain rfl := eq_of_new built
  exact .fresh interval

end Scheduler

end TrafficMeter.Poll
