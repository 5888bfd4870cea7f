import TrafficMeter.Poll.Loop

/-! # The poll scheduler

Starts a loop over a script of polls and disposes of it. A poll may dispose of the
scheduler itself, and it may stand still until it is released, whatever happens in
the meantime. Once disposed of, a loop begins no further poll.
-/

namespace TrafficMeter.Poll

/-- A poll of a script. A poll that stands still waits for its release after it was
told its time. -/
structure Scripted where
  outcome : Outcome
  standsStill : Bool

/-- Where a started loop is. -/
inductive Standing where
  /-- The first poll stands still; the rest of the script follows it. -/
  | held (poll : Outcome) (script : List Scripted)
  | ended

/-- A loop that has been started. -/
structure Active where
  loop : Loop
  standing : Standing

namespace Active

/-- Runs the polls of a script until the loop ends or a poll stands still; past the
end of the script a poll is cancelled. -/
def run (loop : Loop) : List Scripted → Active
  | [] => ⟨loop.turn .cancellation, .ended⟩
  | poll :: script =>
      if poll.standsStill then ⟨loop.enter, .held poll.outcome script⟩
      else
        let loop := loop.turn poll.outcome
        if loop.ended then ⟨loop, .ended⟩ else run loop script

/-- Releases the poll that stands still, if there is one. -/
def release (active : Active) : Active :=
  match active.standing with
  | .ended => active
  | .held poll script =>
      let loop := active.loop.leave poll
      if loop.ended then ⟨loop, .ended⟩ else run loop script

/-- Cancels the loop. It is noticed at the next moment that the loop looks. -/
def cancel (active : Active) : Active :=
  { active with loop := { active.loop with cancelled := true } }

end Active

/-- A scheduler with the loop that it has started, if any. -/
structure Scheduler where
  interval : Span
  lifecycle : Lifecycle
  active : Option Active

namespace Scheduler

/-- A scheduler that has not been started. -/
def new (interval : Span) : Except SettingsError Scheduler :=
  if interval.nanos = 0 then .error .nonPositiveInterval
  else .ok ⟨interval, .notStarted, none⟩

/-- A scheduler whose loop has moved. A loop can only be cancelled by disposing. -/
def settle (scheduler : Scheduler) (active : Active) : Scheduler :=
  { scheduler with
    lifecycle := if active.loop.cancelled then .disposed else scheduler.lifecycle
    active := some active }

/-- Starts a loop over a script and lets it run. -/
def start (scheduler : Scheduler) (script : List Scripted) : Except StartError Scheduler := do
  let lifecycle ← scheduler.lifecycle.start
  return { scheduler with lifecycle }.settle (.run (.new scheduler.interval) script)

/-- Releases a poll that stands still and lets the loop run on. -/
def release (scheduler : Scheduler) : Scheduler :=
  match scheduler.active with
  | none => scheduler
  | some active => scheduler.settle active.release

/-- Disposes of the scheduler: its loop is cancelled. -/
def dispose (scheduler : Scheduler) : Scheduler :=
  { scheduler with
    lifecycle := .disposed
    active := scheduler.active.map Active.cancel }

end Scheduler

end TrafficMeter.Poll
