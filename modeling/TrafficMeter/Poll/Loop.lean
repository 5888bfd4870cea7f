import TrafficMeter.Poll.Cadence
import TrafficMeter.Report

/-! # The poll loop

The loop on a virtual clock: each poll is told the time it stands for, takes some
time, and is followed by a sleep up to the next whole interval. Only cancellation
ends the loop; an error of another kind or a breakdown leaves it running.
-/

namespace TrafficMeter.Poll

/-- When a poll began and the time it was told to stand for. -/
structure Entry where
  began : Nat
  told : Span
  deriving DecidableEq, Repr

/-- What a poll does to the loop. -/
structure Outcome where
  /-- The time until the poll returns. -/
  takes : Span
  /-- Whether the loop is cancelled by the time it returns. -/
  cancels : Bool
  result : Attempt Report Unit

namespace Outcome

/-- A poll that takes no time and ends the loop by a cancellation. -/
def cancellation : Outcome :=
  ⟨.zero, false, .error (.error (.of (.cancelled .cancelled)))⟩

/-- Whether the outcome is an error with a cancellation in its chain. -/
def isCancellation (outcome : Outcome) : Bool :=
  match outcome.result with
  | .error (.error report) => report.isCancellation
  | _ => false

end Outcome

/-- A loop between two of its moments: the virtual time in nanoseconds, the intervals
that the next poll stands for, and what has happened so far. -/
structure Loop where
  interval : Span
  now : Nat
  cycles : Nat
  entries : Array Entry
  sleeps : Array Span
  cancelled : Bool
  ended : Bool
  deriving DecidableEq

namespace Loop

/-- A loop before its first poll. -/
def new (interval : Span) : Loop := ⟨interval, 0, 1, #[], #[], false, false⟩

/-- The time that the next poll stands for. -/
def told (loop : Loop) : Span := loop.interval.scale loop.cycles

/-- The times that the polls so far were told. -/
def history (loop : Loop) : List Span := loop.entries.toList.map Entry.told

/-- A poll begins. -/
def enter (loop : Loop) : Loop :=
  { loop with entries := loop.entries.push ⟨loop.now, loop.told⟩ }

/-- A poll returns. The loop ends on a cancellation, or if it has been cancelled;
otherwise it sleeps until the next poll. -/
def leave (loop : Loop) (outcome : Outcome) : Loop :=
  let loop := { loop with
    now := loop.now + outcome.takes.nanos
    cancelled := loop.cancelled || outcome.cancels }
  if outcome.isCancellation then { loop with ended := true }
  else
    let following := next loop.interval outcome.takes
    let loop := { loop with cycles := following.cycles }
    if loop.cancelled then { loop with ended := true }
    else { loop with
      now := loop.now + following.delay.nanos
      sleeps := loop.sleeps.push following.delay }

/-- One whole poll. -/
def turn (loop : Loop) (outcome : Outcome) : Loop := loop.enter.leave outcome

/-- Runs the polls of a script until the loop ends; past the end of the script a poll
is cancelled. -/
def run (loop : Loop) : List Outcome → Loop
  | [] => loop.turn .cancellation
  | outcome :: script =>
      let loop := loop.turn outcome
      if loop.ended then loop else loop.run script

@[simp] theorem enter_cycles (loop : Loop) : loop.enter.cycles = loop.cycles := rfl

@[simp] theorem enter_now (loop : Loop) : loop.enter.now = loop.now := rfl

@[simp] theorem enter_sleeps (loop : Loop) : loop.enter.sleeps = loop.sleeps := rfl

@[simp] theorem enter_interval (loop : Loop) : loop.enter.interval = loop.interval := rfl

@[simp] theorem history_enter (loop : Loop) :
    loop.enter.history = loop.history ++ [loop.told] := by
  simp [enter, history]

@[simp] theorem leave_entries (loop : Loop) (outcome : Outcome) :
    (loop.leave outcome).entries = loop.entries := by
  unfold leave
  dsimp only
  split
  · rfl
  · split <;> rfl

@[simp] theorem leave_interval (loop : Loop) (outcome : Outcome) :
    (loop.leave outcome).interval = loop.interval := by
  unfold leave
  dsimp only
  split
  · rfl
  · split <;> rfl

end Loop

end TrafficMeter.Poll
