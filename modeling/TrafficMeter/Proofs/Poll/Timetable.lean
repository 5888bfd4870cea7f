import Mathlib.Algebra.GroupWithZero.Nat
import Mathlib.Order.Bounds.Defs
import TrafficMeter.Poll.Loop
import TrafficMeter.Proofs.Poll.Cadence

/-! # The timetable of a poll loop

Where nothing saturates, every poll starts at the first whole interval after the end of
the poll before it, counted from the first poll, and is told exactly the time since that
poll started.
-/

namespace TrafficMeter.Poll

/-- The time from the start of a poll that takes the time `spent` to the start of the
next one, in nanoseconds. -/
def slot (interval spent : Span) : Nat := interval.nanos * (spent.nanos / interval.nanos + 1)

/-- Neither the count of intervals nor the time told after such a poll saturates. -/
structure Regular (interval spent : Span) : Prop where
  cycles : spent.nanos / interval.nanos + 1 ≤ maxCycles
  slot : slot interval spent ≤ Span.maxNanos

section Next

variable {interval spent : Span}

theorem slot_eq (positive : 0 < interval.nanos) :
    slot interval spent =
      spent.nanos + (interval.nanos - spent.nanos % interval.nanos) := by
  have rest := Nat.mod_lt spent.nanos positive
  have whole := Nat.div_add_mod spent.nanos interval.nanos
  unfold slot
  rw [Nat.mul_add, Nat.mul_one]
  omega

theorem lt_slot (spent : Span) (positive : 0 < interval.nanos) :
    spent.nanos < slot interval spent := by
  have rest := Nat.mod_lt spent.nanos positive
  rw [slot_eq positive]
  omega

/-- The sleep after a poll lasts to the next whole interval, and the next poll stands for
all the intervals up to there. -/
theorem next_eq (positive : 0 < interval.nanos) (short : interval.nanos ≤ maxDelay)
    (regular : spent.nanos / interval.nanos + 1 ≤ maxCycles) :
    next interval spent = ⟨.ofNanos (interval.nanos - spent.nanos % interval.nanos),
      spent.nanos / interval.nanos + 1⟩ := by
  rw [next_eq_limited positive, Nat.min_eq_left (by omega), Nat.min_eq_left regular]

theorem delay_nanos (positive : 0 < interval.nanos) (short : interval.nanos ≤ maxDelay) :
    (next interval spent).delay.nanos = interval.nanos - spent.nanos % interval.nanos := by
  rw [delay_limited positive, Nat.min_eq_left (by omega)]

theorem told_nanos (regular : Regular interval spent) :
    (interval.scale (spent.nanos / interval.nanos + 1)).nanos = slot interval spent := by
  rw [Span.nanos_scale]
  exact Nat.min_eq_left regular.slot

/-- One slot after a multiple of the interval comes the first multiple after the poll. -/
theorem isLeast_slot (positive : 0 < interval.nanos) (first k : Nat) :
    IsLeast {instant | (∃ m, instant = first + m * interval.nanos) ∧
        first + k * interval.nanos + spent.nanos < instant}
      (first + k * interval.nanos + slot interval spent) := by
  constructor
  · refine ⟨⟨k + (spent.nanos / interval.nanos + 1), ?_⟩, ?_⟩
    · rw [slot, Nat.add_mul k, Nat.mul_comm interval.nanos, Nat.add_assoc]
    · have := lt_slot spent positive
      omega
  · -- a multiple past the poll is past it by whole intervals, the begun one included
    rintro instant ⟨⟨m, rfl⟩, later⟩
    have beyond : k * interval.nanos + spent.nanos < m * interval.nanos := by omega
    have order : k ≤ m := Nat.le_of_mul_le_mul_right (by omega) positive
    obtain ⟨n, rfl⟩ := Nat.exists_eq_add_of_le order
    rw [Nat.add_mul] at beyond ⊢
    have intervals : spent.nanos / interval.nanos + 1 ≤ n :=
      Nat.div_lt_of_lt_mul (by rw [Nat.mul_comm]; omega)
    have reached : slot interval spent ≤ n * interval.nanos := by
      rw [Nat.mul_comm n]
      exact Nat.mul_le_mul_left interval.nanos intervals
    omega

end Next

/-- Every entry but the first comes one slot after the entry before it and is told that
slot; the polls between them are those of the script. -/
inductive Scheduled (interval : Span) : List Entry → List Outcome → Prop where
  | last (entry : Entry) (script : List Outcome) : Scheduled interval [entry] script
  | next {entry following : Entry} {entries : List Entry} {outcome : Outcome}
      {script : List Outcome} :
      following.began = entry.began + slot interval outcome.takes →
      following.told.nanos = slot interval outcome.takes →
      Scheduled interval (following :: entries) script →
      Scheduled interval (entry :: following :: entries) (outcome :: script)

namespace Scheduled

variable {interval : Span} {script : List Outcome}

/-- Two entries in a row, with the poll between them. -/
theorem step {entries : List Entry} (scheduled : Scheduled interval entries script) {i : Nat}
    {entry following : Entry} (this : entries[i]? = some entry)
    (after : entries[i + 1]? = some following) :
    ∃ outcome, script[i]? = some outcome ∧
      following.began = entry.began + slot interval outcome.takes ∧
      following.told.nanos = slot interval outcome.takes := by
  induction scheduled generalizing i with
  | last single script => simp at after
  | @next first second entries outcome script began told rest ih =>
      cases i with
      | zero =>
          obtain rfl : first = entry := by simpa using this
          obtain rfl : second = following := by simpa using after
          exact ⟨outcome, rfl, began, told⟩
      | succ i => exact ih (by simpa using this) (by simpa using after)

/-- Every entry is a whole number of intervals after the first. -/
theorem whole {first : Entry} {entries : List Entry}
    (scheduled : Scheduled interval (first :: entries) script) {i : Nat} {entry : Entry}
    (this : (first :: entries)[i]? = some entry) :
    ∃ k, entry.began = first.began + k * interval.nanos := by
  induction i generalizing entry with
  | zero =>
      obtain rfl : first = entry := by simpa using this
      exact ⟨0, by simp⟩
  | succ i ih =>
      have inside : i < (first :: entries).length :=
        Nat.lt_of_succ_lt (List.getElem?_eq_some_iff.mp this).1
      obtain ⟨k, began⟩ := ih (List.getElem?_eq_getElem inside)
      obtain ⟨outcome, _, later, _⟩ := scheduled.step (List.getElem?_eq_getElem inside) this
      refine ⟨k + (outcome.takes.nanos / interval.nanos + 1), ?_⟩
      rw [later, began, slot, Nat.add_mul k, Nat.mul_comm interval.nanos, Nat.add_assoc]

/-- The times told up to an entry add up to the time since the first entry. -/
theorem told_sum {first : Entry} {entries : List Entry}
    (scheduled : Scheduled interval (first :: entries) script) {i : Nat} {entry : Entry}
    (this : (first :: entries)[i]? = some entry) :
    entry.began = first.began + ((entries.take i).map (·.told.nanos)).sum := by
  induction i generalizing entry with
  | zero =>
      obtain rfl : first = entry := by simpa using this
      simp
  | succ i ih =>
      have inside : i < (first :: entries).length :=
        Nat.lt_of_succ_lt (List.getElem?_eq_some_iff.mp this).1
      have began := ih (List.getElem?_eq_getElem inside)
      obtain ⟨outcome, _, later, told⟩ := scheduled.step (List.getElem?_eq_getElem inside) this
      have own : entries[i]? = some entry := by simpa using this
      rw [List.take_add_one, own, List.map_append, List.sum_append, later, began]
      simp [told, Nat.add_assoc]

end Scheduled

namespace Loop

variable {loop : Loop} {outcome : Outcome} {script : List Outcome}

@[simp] theorem turn_interval : (loop.turn outcome).interval = loop.interval := by
  simp [turn]

theorem turn_entries :
    (loop.turn outcome).entries.toList = loop.entries.toList ++ [⟨loop.now, loop.told⟩] := by
  simp [turn, enter]

/-- All that a poll which does not end the loop does to it. -/
theorem leave_of_going (going : (loop.leave outcome).ended = false) :
    loop.leave outcome = { loop with
      now := loop.now + outcome.takes.nanos + (next loop.interval outcome.takes).delay.nanos
      cycles := (next loop.interval outcome.takes).cycles
      sleeps := loop.sleeps.push (next loop.interval outcome.takes).delay
      cancelled := false } := by
  unfold leave at going ⊢
  dsimp only at going ⊢
  by_cases cancellation : outcome.isCancellation
  · rw [if_pos cancellation] at going
    cases going
  · rw [if_neg cancellation] at going ⊢
    cases cancelled : loop.cancelled || outcome.cancels with
    | true => simp [cancelled] at going
    | false => simp

/-- A poll that ends the loop is not followed by a sleep. -/
theorem leave_sleeps_of_ended (running : loop.ended = false)
    (ended : (loop.leave outcome).ended = true) :
    (loop.leave outcome).sleeps = loop.sleeps := by
  unfold leave at ended ⊢
  dsimp only at ended ⊢
  by_cases cancellation : outcome.isCancellation
  · rw [if_pos cancellation]
  · rw [if_neg cancellation] at ended ⊢
    cases cancelled : loop.cancelled || outcome.cancels with
    | true => simp
    | false => simp [cancelled, running] at ended

/-- A poll after which the loop goes on ends one slot after its start, sleep included, and
the next poll is told that slot. -/
theorem leave_on_time (loop : Loop) (positive : 0 < loop.interval.nanos)
    (short : loop.interval.nanos ≤ maxDelay) (regular : Regular loop.interval outcome.takes)
    (going : (loop.leave outcome).ended = false) :
    (loop.leave outcome).now = loop.now + slot loop.interval outcome.takes ∧
      (loop.leave outcome).told.nanos = slot loop.interval outcome.takes := by
  rw [leave_of_going going]
  constructor
  · dsimp only
    rw [delay_nanos positive short, slot_eq positive, Nat.add_assoc]
  · dsimp only [told]
    rw [next_eq positive short regular.cycles, told_nanos regular]

/-- The entries of a run are those before it, then the poll that begins it, then one for
every poll after that, on schedule. -/
theorem run_scheduled (loop : Loop) (positive : 0 < loop.interval.nanos)
    (short : loop.interval.nanos ≤ maxDelay)
    (regular : ∀ outcome ∈ script, Regular loop.interval outcome.takes) :
    ∃ entries, (loop.run script).entries.toList =
        loop.entries.toList ++ ⟨loop.now, loop.told⟩ :: entries ∧
      Scheduled loop.interval (⟨loop.now, loop.told⟩ :: entries) script := by
  induction script generalizing loop with
  | nil => exact ⟨[], turn_entries, .last _ _⟩
  | cons outcome script ih =>
      by_cases ended : (loop.turn outcome).ended
      · refine ⟨[], ?_, .last _ _⟩
        rw [run, if_pos ended]
        exact turn_entries
      · have going : (loop.enter.leave outcome).ended = false :=
          Bool.eq_false_iff.mpr ended
        obtain ⟨began, told⟩ := leave_on_time loop.enter positive short
          (regular outcome (by simp)) going
        obtain ⟨entries, held, scheduled⟩ := ih (loop.turn outcome)
          (by simpa using positive) (by simpa using short)
          (fun later inside => by simpa using regular later (by simp [inside]))
        refine ⟨⟨(loop.turn outcome).now, (loop.turn outcome).told⟩ :: entries, ?_, ?_⟩
        · rw [run, if_neg ended, held, turn_entries, List.append_assoc]
          rfl
        · exact .next began told (by simpa using scheduled)

/-- A run only ever sleeps for a positive time of at most one interval. -/
theorem run_sleeps (loop : Loop) (positive : 0 < loop.interval.nanos)
    (short : loop.interval.nanos ≤ maxDelay)
    (regular : ∀ outcome ∈ script, Regular loop.interval outcome.takes)
    (running : loop.ended = false)
    (slept : ∀ sleep ∈ loop.sleeps, 0 < sleep.nanos ∧ sleep.nanos ≤ loop.interval.nanos) :
    ∀ sleep ∈ (loop.run script).sleeps, 0 < sleep.nanos ∧ sleep.nanos ≤ loop.interval.nanos := by
  induction script generalizing loop with
  | nil =>
      have still : (loop.run []).sleeps = loop.sleeps := leave_sleeps_of_ended running rfl
      rwa [still]
  | cons outcome script ih =>
      by_cases ended : (loop.turn outcome).ended
      · rw [run, if_pos ended]
        have still : (loop.turn outcome).sleeps = loop.sleeps :=
          leave_sleeps_of_ended running ended
        rwa [still]
      · have going : (loop.enter.leave outcome).ended = false :=
          Bool.eq_false_iff.mpr ended
        have further := ih (loop.turn outcome) (by simpa using positive)
          (by simpa using short)
          (fun later inside => by simpa using regular later (by simp [inside])) going
        rw [run, if_neg ended]
        rw [turn_interval] at further
        apply further
        intro sleep inside
        rw [turn, leave_of_going going] at inside
        rcases Array.mem_push.mp inside with earlier | rfl
        · exact slept sleep earlier
        · have delay := @delay_nanos _ outcome.takes positive short
          have rest := Nat.mod_lt outcome.takes.nanos positive
          rw [enter_interval, delay]
          omega

end Loop

/-- The history of a loop keeps the timetable of a script: every poll starts at the first
whole interval after the end of the poll before it, counted from the first poll, and is
told the time since that poll started. -/
structure OnTimetable (interval : Span) (script : List Outcome) (loop : Loop) : Prop where
  sleeps : ∀ sleep ∈ loop.sleeps, 0 < sleep.nanos ∧ sleep.nanos ≤ interval.nanos
  polls : ∀ (i : Nat) (first entry following : Entry), loop.entries[0]? = some first →
    loop.entries[i]? = some entry → loop.entries[i + 1]? = some following →
    ∃ outcome, script[i]? = some outcome ∧
      IsLeast {instant | (∃ k, instant = first.began + k * interval.nanos) ∧
        entry.began + outcome.takes.nanos < instant} following.began ∧
      following.began = entry.began + following.told.nanos ∧
      following.began = first.began + ((loop.history.tail.take (i + 1)).map Span.nanos).sum

theorem Scheduled.onTimetable {interval : Span} {script : List Outcome} {loop : Loop}
    {first : Entry} {entries : List Entry}
    (scheduled : Scheduled interval (first :: entries) script) (positive : 0 < interval.nanos)
    (held : loop.entries.toList = first :: entries)
    (slept : ∀ sleep ∈ loop.sleeps, 0 < sleep.nanos ∧ sleep.nanos ≤ interval.nanos) :
    OnTimetable interval script loop := by
  refine ⟨slept, ?_⟩
  intro i start entry following atStart this after
  rw [← Array.getElem?_toList, held] at atStart this after
  obtain rfl : first = start := by simpa using atStart
  obtain ⟨k, began⟩ := scheduled.whole this
  obtain ⟨outcome, taken, later, told⟩ := scheduled.step this after
  refine ⟨outcome, taken, ?_, by rw [later, told], ?_⟩
  · rw [later, began]
    exact isLeast_slot positive first.began k
  · rw [scheduled.told_sum after, Loop.history, held]
    simp [List.map_take, Function.comp_def]

/-- A loop that runs a whole script keeps the timetable. -/
theorem Loop.run_onTimetable {interval : Span} {script : List Outcome} (start : Nat)
    (positive : 0 < interval.nanos) (short : interval.nanos ≤ maxDelay)
    (regular : ∀ outcome ∈ script, Regular interval outcome.takes) :
    OnTimetable interval script ({ Loop.new interval with now := start }.run script) := by
  let loop : Loop := { Loop.new interval with now := start }
  obtain ⟨entries, held, scheduled⟩ := run_scheduled loop positive short regular
  exact scheduled.onTimetable positive held
    (run_sleeps loop positive short regular rfl (by simp [loop, Loop.new]))

end TrafficMeter.Poll
