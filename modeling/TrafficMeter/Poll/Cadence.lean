import TrafficMeter.Span

/-! # Keeping the cadence

Polls start on whole multiples of the interval after the first one. A poll that
overruns its interval skips whole intervals, and the next one is told how many it
stands for.
-/

namespace TrafficMeter.Poll

/-- The sleep before the next poll, and the number of intervals it stands for. -/
structure Next where
  delay : Span
  cycles : Nat
  deriving DecidableEq, Repr

/-- The largest number of intervals that a poll can stand for. -/
def maxCycles : Nat := 4294967295

/-- The longest sleep, in nanoseconds. -/
def maxDelay : Nat := 18446744073709551615

/-- What follows a poll that took the time `spent`: sleep for the rest of the
interval, or, if none is left, up to the next whole interval. -/
def next (interval spent : Span) : Next :=
  if spent.nanos < interval.nanos then
    ⟨.ofNanos (min (interval.nanos - spent.nanos) maxDelay), 1⟩
  else if interval.nanos = 0 then ⟨.zero, 1⟩
  else
    let skipped := (spent.nanos - interval.nanos) / interval.nanos + 1
    ⟨.ofNanos (min (interval.nanos + skipped * interval.nanos - spent.nanos) maxDelay),
      min (skipped + 1) maxCycles⟩

end TrafficMeter.Poll
