import Mathlib.Algebra.GroupWithZero.Nat
import Mathlib.Algebra.Ring.Int.Defs
import TrafficMeter.Poll.Cadence

/-! # Catching up with the cadence

The sleep after a poll is the rest of the interval in which the poll ended, and the next poll
stands for all intervals up to that end, each up to its limit. Adding the interval to what is
left of it until that is positive comes to the same, and the closed form never outgrows a
signed word of 128 bits.
-/

namespace TrafficMeter.Poll

variable {interval spent : Span}

section ClosedForm

theorem next_eq_limited (positive : 0 < interval.nanos) :
    next interval spent =
      ⟨.ofNanos (min (interval.nanos - spent.nanos % interval.nanos) maxDelay),
        min (spent.nanos / interval.nanos + 1) maxCycles⟩ := by
  unfold next
  by_cases fast : spent.nanos < interval.nanos
  · rw [if_pos fast, Nat.mod_eq_of_lt fast, Nat.div_eq_of_lt fast]
    rfl
  · have skipped : (spent.nanos - interval.nanos) / interval.nanos + 1 =
        spent.nanos / interval.nanos :=
      (Nat.div_eq_sub_div positive (Nat.le_of_not_lt fast)).symm
    have left : interval.nanos + spent.nanos / interval.nanos * interval.nanos - spent.nanos =
        interval.nanos - spent.nanos % interval.nanos := by
      have whole := Nat.div_add_mod' spent.nanos interval.nanos
      omega
    rw [if_neg fast, if_neg (by omega)]
    dsimp only
    rw [skipped, left]

/-- A poll of exactly one interval has overrun it. -/
example : next (.ofParts 1 0) (.ofParts 1 0) = ⟨.ofParts 1 0, 2⟩ := by decide

theorem delay_limited (positive : 0 < interval.nanos) :
    (next interval spent).delay.nanos =
      min (interval.nanos - spent.nanos % interval.nanos) maxDelay := by
  rw [next_eq_limited positive, Span.nanos_ofNanos, Nat.min_eq_left]
  unfold maxDelay Span.maxNanos
  omega

theorem cycles_limited (positive : 0 < interval.nanos) :
    (next interval spent).cycles = min (spent.nanos / interval.nanos + 1) maxCycles := by
  rw [next_eq_limited positive]

/-- Where no limit is hit, the next poll starts on a whole interval, and stands for all
intervals up to there. -/
theorem spent_add_delay (positive : 0 < interval.nanos)
    (few : spent.nanos / interval.nanos + 1 ≤ maxCycles)
    (short : interval.nanos - spent.nanos % interval.nanos ≤ maxDelay) :
    spent.nanos + (next interval spent).delay.nanos =
      (next interval spent).cycles * interval.nanos := by
  have rest := Nat.mod_lt spent.nanos positive
  have whole := Nat.div_add_mod' spent.nanos interval.nanos
  rw [delay_limited positive, cycles_limited positive, Nat.min_eq_left short, Nat.min_eq_left few,
    Nat.add_mul]
  omega

end ClosedForm

section Counting

/-- Adds the interval to what is left of it until that is positive, counting the intervals. -/
def catchUp (interval : Nat) (positive : 0 < interval) (remainder : Int) (cycles : Nat) :
    Int × Nat :=
  if 0 < remainder then (remainder, cycles)
  else catchUp interval positive (remainder + interval) (cycles + 1)
termination_by (1 - remainder).toNat

theorem catchUp_of_pos {interval : Nat} (positive : 0 < interval) {remainder : Int}
    (cycles : Nat) (left : 0 < remainder) :
    catchUp interval positive remainder cycles = (remainder, cycles) := by
  rw [catchUp, if_pos left]

theorem catchUp_of_not_pos {interval : Nat} (positive : 0 < interval) {remainder : Int}
    (cycles : Nat) (none : ¬0 < remainder) :
    catchUp interval positive remainder cycles =
      catchUp interval positive (remainder + interval) (cycles + 1) := by
  rw [catchUp, if_neg none]

/-- Every round takes one interval off the time that was spent. -/
theorem catchUp_eq {interval : Nat} (positive : 0 < interval) (spent cycles : Nat) :
    catchUp interval positive (interval - spent) cycles =
      (((interval - spent % interval : Nat) : Int), spent / interval + cycles) := by
  induction spent using Nat.strongRecOn generalizing cycles with
  | ind spent ih =>
      by_cases fast : spent < interval
      · rw [catchUp_of_pos positive cycles (by omega), Nat.mod_eq_of_lt fast,
          Nat.div_eq_of_lt fast, Nat.zero_add, Int.ofNat_sub (Nat.le_of_lt fast)]
      · have slow : interval ≤ spent := Nat.le_of_not_lt fast
        have taken : (interval : Int) - spent + interval =
            interval - ((spent - interval : Nat) : Int) := by omega
        rw [catchUp_of_not_pos positive cycles (by omega), taken, ih _ (by omega),
          Nat.mod_eq_sub_mod slow, Nat.div_eq_sub_div positive slow, Nat.add_right_comm,
          Nat.add_assoc]

end Counting

section Words

/-- The number, if a signed word of 128 bits holds it. -/
def word? (n : Int) : Option Int := if -2 ^ 127 ≤ n ∧ n < 2 ^ 127 then some n else none

/-- A number up to a limit; one below zero is taken for one past it. -/
def limited (limit : Nat) (n : Int) : Nat := if 0 ≤ n ∧ n ≤ limit then n.toNat else limit

/-- What follows a poll, computed with signed words of 128 bits. Quotients are truncated, and
there is no outcome if the result of an operation is no such word. -/
def nextInWords? (interval spent : Span) : Option Next := do
  let step ← word? interval.nanos
  let taken ← word? spent.nanos
  let remainder ← word? (step - taken)
  if remainder ≤ 0 ∧ 0 < step then
    let overrun ← word? (-remainder)
    let quotient ← word? (overrun.tdiv step)
    let skipped ← word? (quotient + 1)
    let added ← word? (skipped * step)
    let remainder ← word? (remainder + added)
    let cycles ← word? (skipped + 1)
    return ⟨.ofNanos (limited maxDelay (max remainder 0)), limited maxCycles cycles⟩
  else return ⟨.ofNanos (limited maxDelay (max remainder 0)), 1⟩

theorem word?_bind {α : Type} {n : Int} (lower : -2 ^ 127 ≤ n) (upper : n < 2 ^ 127)
    (rest : Int → Option α) : (word? n >>= rest) = rest n := by
  rw [word?, if_pos ⟨lower, upper⟩]
  rfl

theorem limited_natCast (limit n : Nat) : limited limit n = min n limit := by
  unfold limited
  split <;> omega

theorem tdiv_overrun {interval spent : Nat} (late : interval ≤ spent) :
    (-((interval : Int) - spent)).tdiv interval = ((spent - interval) / interval : Nat) := by
  have overrun : -((interval : Int) - spent) = (spent - interval : Nat) := by omega
  rw [overrun, Int.ofNat_tdiv]

/-- No operation leaves the words: nothing on the way exceeds the longer of the two spans. -/
theorem nextInWords?_eq (interval spent : Span) :
    nextInWords? interval spent = some (next interval spent) := by
  have interval_lt := interval.nanos_lt
  have spent_lt := spent.nanos_lt
  unfold nextInWords?
  rw [word?_bind (by omega) (by omega), word?_bind (by omega) (by omega),
    word?_bind (by omega) (by omega)]
  by_cases late : 0 < interval.nanos ∧ interval.nanos ≤ spent.nanos
  · obtain ⟨positive, late⟩ := late
    have more := Nat.div_eq_sub_div positive late
    have whole := Nat.div_add_mod' spent.nanos interval.nanos
    have rest_lt := Nat.mod_lt spent.nanos positive
    have few := Nat.div_le_self spent.nanos interval.nanos
    rw [if_pos ⟨by omega, by omega⟩, word?_bind (by omega) (by omega), tdiv_overrun late,
      next_eq_limited positive]
    generalize (spent.nanos - interval.nanos) / interval.nanos = past at *
    generalize spent.nanos / interval.nanos = intervals at *
    generalize spent.nanos % interval.nanos = rest at *
    have skipped : (past : Int) + 1 = intervals := by omega
    have added : (intervals : Int) * interval.nanos = (spent.nanos - rest : Nat) := by
      rw [← Int.natCast_mul]
      omega
    have left : (interval.nanos : Int) - spent.nanos + (spent.nanos - rest : Nat) =
        (interval.nanos - rest : Nat) := by
      omega
    rw [word?_bind (by omega) (by omega), skipped, word?_bind (by omega) (by omega), added,
      word?_bind (by omega) (by omega), left, word?_bind (by omega) (by omega),
      word?_bind (by omega) (by omega), Int.max_eq_left (by omega), limited_natCast]
    change some (Next.mk _ (limited maxCycles (intervals + 1 : Nat))) = _
    rw [limited_natCast]
  · have in_time : ¬((interval.nanos : Int) - spent.nanos ≤ 0 ∧ 0 < (interval.nanos : Int)) := by
      omega
    have waits : next interval spent =
        ⟨.ofNanos (min (interval.nanos - spent.nanos) maxDelay), 1⟩ := by
      unfold next
      by_cases fast : spent.nanos < interval.nanos
      · rw [if_pos fast]
      · have none : interval.nanos = 0 := by omega
        rw [if_neg fast, if_pos none, none, Nat.zero_sub, Nat.zero_min]
        rfl
    have left : max ((interval.nanos : Int) - spent.nanos) 0 =
        (interval.nanos - spent.nanos : Nat) := by
      omega
    rw [if_neg in_time, waits, left, limited_natCast]
    rfl

end Words

/-- After a poll of any length the next one begins where the interval ends in which the poll
ended, and stands for all intervals up to there, unless a limit is hit. Nothing overflows on
the way, and adding the interval again and again comes to the same. -/
theorem next_catches_up (interval spent : Span) (positive : 0 < interval.nanos) :
    let following := next interval spent
    let counted := catchUp interval.nanos positive (interval.nanos - spent.nanos) 1
    nextInWords? interval spent = some following ∧
      following.cycles = min (spent.nanos / interval.nanos + 1) (2 ^ 32 - 1) ∧
      following.delay.nanos = min (interval.nanos - spent.nanos % interval.nanos) (2 ^ 64 - 1) ∧
      0 < following.delay.nanos ∧
      (spent.nanos / interval.nanos + 1 ≤ 2 ^ 32 - 1 →
        interval.nanos - spent.nanos % interval.nanos ≤ 2 ^ 64 - 1 →
        spent.nanos + following.delay.nanos = following.cycles * interval.nanos) ∧
      0 < counted.1 ∧
      following.delay.nanos = min counted.1.toNat (2 ^ 64 - 1) ∧
      following.cycles = min counted.2 (2 ^ 32 - 1) := by
  intro following counted
  have rest := Nat.mod_lt spent.nanos positive
  have delay : following.delay.nanos =
      min (interval.nanos - spent.nanos % interval.nanos) (2 ^ 64 - 1) := delay_limited positive
  have cycles : following.cycles = min (spent.nanos / interval.nanos + 1) (2 ^ 32 - 1) :=
    cycles_limited positive
  have rounds : counted = _ := catchUp_eq positive spent.nanos 1
  refine ⟨nextInWords?_eq interval spent, cycles, delay, by omega, ?_, ?_, ?_, ?_⟩
  · exact spent_add_delay positive
  · rw [rounds]
    omega
  · rw [rounds, Int.toNat_natCast, delay]
  · rw [rounds, cycles]

theorem next_catches_up_overdue :
    0 < (Span.ofNanos 7).nanos ∧
      (next (.ofNanos 7) (.ofParts 60 0)).cycles = 4294967295 ∧
      (next (.ofNanos 7) (.ofParts 60 0)).delay.nanos = 4 := by
  have positive : 0 < (Span.ofNanos 7).nanos := by decide
  obtain ⟨_, cycles, delay, _⟩ := next_catches_up (.ofNanos 7) (.ofParts 60 0) positive
  exact ⟨positive, cycles.trans (by decide), delay.trans (by decide)⟩

end TrafficMeter.Poll
