import TrafficMeter.Poll.Scheduler
import TrafficMeter.Proofs.Poll.Timetable

/-! # Interrupted runs

A scheduler whose polls stand still and are released, and which is disposed of at any
time, has lived through a beginning of the run that nothing interrupts.
-/

namespace TrafficMeter.Poll

/-- What becomes of a scheduler by releasing polls and disposing. -/
inductive Scheduler.Later (first : Scheduler) : Scheduler → Prop where
  | here : Later first first
  | release {last : Scheduler} : Later first last → Later first last.release
  | dispose {last : Scheduler} : Later first last → Later first last.dispose

namespace Loop

/-- The history of one loop is a beginning of that of another. -/
structure Precedes (before after : Loop) : Prop where
  entries : before.entries.toList <+: after.entries.toList
  sleeps : before.sleeps.toList <+: after.sleeps.toList

namespace Precedes

theorem refl (loop : Loop) : loop.Precedes loop := ⟨List.prefix_rfl, List.prefix_rfl⟩

theorem trans {first middle last : Loop} (early : first.Precedes middle)
    (late : middle.Precedes last) : first.Precedes last :=
  ⟨early.entries.trans late.entries, early.sleeps.trans late.sleeps⟩

end Precedes

theorem leave_precedes (loop : Loop) (outcome : Outcome) :
    loop.Precedes (loop.leave outcome) := by
  refine ⟨by simp, ?_⟩
  unfold leave
  dsimp only
  split
  · exact List.prefix_rfl
  · split
    · exact List.prefix_rfl
    · simp

theorem turn_precedes (loop : Loop) (outcome : Outcome) :
    loop.Precedes (loop.turn outcome) := by
  have entered : loop.Precedes loop.enter := ⟨by simp [enter], List.prefix_rfl⟩
  exact entered.trans (leave_precedes loop.enter outcome)

theorem run_precedes (loop : Loop) (script : List Outcome) : loop.Precedes (loop.run script) := by
  induction script generalizing loop with
  | nil => exact turn_precedes loop .cancellation
  | cons outcome script ih =>
      rw [run]
      split
      · exact turn_precedes loop outcome
      · exact (turn_precedes loop outcome).trans (ih _)

/-- A loop that has been cancelled ends with the poll under way. -/
theorem leave_of_cancelled {loop : Loop} (outcome : Outcome) (cancelled : loop.cancelled = true) :
    (loop.leave outcome).ended = true ∧ (loop.leave outcome).cancelled = true ∧
      (loop.leave outcome).sleeps = loop.sleeps := by
  unfold leave
  dsimp only
  split <;> simp [cancelled]

end Loop

namespace Active

/-- Where a started loop will end if nothing but releases happens to it. -/
def undisturbed (active : Active) : Loop :=
  match active.standing with
  | .ended => active.loop
  | .held poll script =>
      let loop := active.loop.leave poll
      if loop.ended then loop else loop.run (script.map Scripted.outcome)

theorem undisturbed_run (loop : Loop) (script : List Scripted) :
    (run loop script).undisturbed = loop.run (script.map Scripted.outcome) := by
  induction script generalizing loop with
  | nil => rfl
  | cons poll script ih =>
      rw [run]
      split
      · rfl
      · rw [List.map_cons, Loop.run]
        dsimp only
        split
        · rfl
        · exact ih _

theorem undisturbed_release (active : Active) :
    active.release.undisturbed = active.undisturbed := by
  rcases active with ⟨loop, standing⟩
  cases standing with
  | ended => rfl
  | held poll script =>
      by_cases ended : (loop.leave poll).ended
      · simp [release, undisturbed, ended]
      · have going := undisturbed_run (loop.leave poll) script
        simpa [release, undisturbed, ended] using going

theorem precedes_undisturbed (active : Active) : active.loop.Precedes active.undisturbed := by
  rcases active with ⟨loop, standing⟩
  cases standing with
  | ended => exact .refl loop
  | held poll script =>
      simp only [undisturbed]
      split
      · exact loop.leave_precedes poll
      · exact (loop.leave_precedes poll).trans (Loop.run_precedes _ _)

/-- A poll that is released after the loop has been cancelled is the last one, and no sleep
follows. -/
theorem release_of_cancelled {active : Active} (cancelled : active.loop.cancelled = true) :
    active.release.loop.cancelled = true ∧
      active.release.loop.entries = active.loop.entries ∧
      active.release.loop.sleeps = active.loop.sleeps := by
  rcases active with ⟨loop, standing⟩
  cases standing with
  | ended => exact ⟨cancelled, rfl, rfl⟩
  | held poll script =>
      obtain ⟨ended, still, sleeps⟩ := loop.leave_of_cancelled poll cancelled
      simp only [release, ended, if_true]
      exact ⟨still, loop.leave_entries poll, sleeps⟩

/-- The loop is on its way to `whole`, or has been cancelled on that way. -/
structure Within (active : Active) (whole : Loop) : Prop where
  precedes : active.loop.Precedes whole
  course : active.undisturbed = whole ∨ active.loop.cancelled = true

namespace Within

variable {active : Active} {whole : Loop}

theorem release (within : active.Within whole) : active.release.Within whole := by
  rcases within.course with same | cancelled
  · have same : active.release.undisturbed = whole := (undisturbed_release active).trans same
    exact ⟨same ▸ active.release.precedes_undisturbed, .inl same⟩
  · obtain ⟨still, entries, sleeps⟩ := release_of_cancelled cancelled
    refine ⟨⟨?_, ?_⟩, .inr still⟩
    · rw [entries]
      exact within.precedes.entries
    · rw [sleeps]
      exact within.precedes.sleeps

theorem cancel (within : active.Within whole) : active.cancel.Within whole :=
  ⟨⟨within.precedes.entries, within.precedes.sleeps⟩, .inr rfl⟩

end Within

end Active

namespace Scheduler

variable {scheduler started current : Scheduler} {script : List Scripted} {interval : Span}

theorem eq_of_new (built : new interval = .ok scheduler) :
    scheduler = ⟨interval, .notStarted, none⟩ := by
  unfold new at built
  split at built
  · cases built
  · cases built
    rfl

/-- The loop of the scheduler, if it has one, is on its way to `whole`. -/
def Follows (scheduler : Scheduler) (whole : Loop) : Prop :=
  ∀ active, scheduler.active = some active → active.Within whole

/-- A loop that is started goes the way that nothing interrupts. -/
theorem follows_run (scheduler : Scheduler) (script : List Scripted) :
    (scheduler.settle (.run (.new interval) script)).Follows
      ((Loop.new interval).run (script.map Scripted.outcome)) := by
  rintro _ ⟨rfl⟩
  have same := Active.undisturbed_run (.new interval) script
  exact ⟨same ▸ Active.precedes_undisturbed _, .inl same⟩

namespace Follows

variable {whole : Loop}

theorem release (follows : scheduler.Follows whole) : scheduler.release.Follows whole := by
  intro active running
  cases before : scheduler.active with
  | none => simp [Scheduler.release, before] at running
  | some earlier =>
      simp only [Scheduler.release, before, settle, Option.some.injEq] at running
      subst running
      exact (follows earlier before).release

theorem dispose (follows : scheduler.Follows whole) : scheduler.dispose.Follows whole := by
  intro active running
  obtain ⟨earlier, before, rfl⟩ := Option.map_eq_some_iff.mp running
  exact (follows earlier before).cancel

end Follows

theorem later_follows (built : new interval = .ok scheduler)
    (begun : scheduler.start script = .ok started) (later : started.Later current) :
    current.Follows ((Loop.new interval).run (script.map Scripted.outcome)) := by
  induction later with
  | here =>
      obtain rfl := eq_of_new built
      cases begun
      exact follows_run _ script
  | release _ ih => exact ih.release
  | dispose _ ih => exact ih.dispose

end Scheduler

/-- The beginning of a history that keeps a timetable keeps it as well. -/
theorem OnTimetable.of_precedes {interval : Span} {script : List Outcome} {before after : Loop}
    (kept : OnTimetable interval script after) (earlier : before.Precedes after) :
    OnTimetable interval script before := by
  constructor
  · intro sleep inside
    apply kept.sleeps
    rw [← Array.mem_toList_iff] at inside ⊢
    exact earlier.sleeps.subset inside
  · intro i first entry following atStart this next
    obtain ⟨rest, whole⟩ := earlier.entries
    have held {j : Nat} {found : Entry} (at_j : before.entries[j]? = some found) :
        after.entries[j]? = some found := by
      rw [← Array.getElem?_toList] at at_j ⊢
      rw [← whole, List.getElem?_append_left (List.getElem?_eq_some_iff.mp at_j).1]
      exact at_j
    obtain ⟨outcome, taken, least, gap, sum⟩ :=
      kept.polls i first entry following (held atStart) (held this) (held next)
    have long : i + 1 < before.history.length := by
      simpa [Loop.history] using (Array.getElem?_eq_some_iff.mp next).1
    have history : after.history = before.history ++ rest.map Entry.told := by
      simp [Loop.history, ← whole]
    have told : after.history.tail.take (i + 1) = before.history.tail.take (i + 1) := by
      rw [history, List.tail_append_of_ne_nil (List.ne_nil_of_length_pos (by omega)),
        List.take_append_of_le_length (by rw [List.length_tail]; omega)]
    exact ⟨outcome, taken, least, gap, told ▸ sum⟩

/-- Unless something saturates, the loop keeps the timetable of its script, whenever its
first poll starts; under a scheduler also while polls stand still, are released, or are
cut off by disposing. -/
theorem histories_keep_timetable {interval : Span} {script : List Scripted}
    (positive : 0 < interval.nanos) (short : interval.nanos ≤ maxDelay)
    (regular : ∀ poll ∈ script, Regular interval poll.outcome.takes) :
    (∀ start, OnTimetable interval (script.map Scripted.outcome)
        ({ Loop.new interval with now := start }.run (script.map Scripted.outcome))) ∧
      ∀ scheduler started current active, Scheduler.new interval = .ok scheduler →
        scheduler.start script = .ok started → started.Later current →
        current.active = some active →
        OnTimetable interval (script.map Scripted.outcome) active.loop := by
  have outcomes : ∀ outcome ∈ script.map Scripted.outcome, Regular interval outcome.takes := by
    intro outcome inside
    obtain ⟨poll, scripted, rfl⟩ := List.mem_map.mp inside
    exact regular poll scripted
  have whole := fun start => Loop.run_onTimetable start positive short outcomes
  refine ⟨whole, ?_⟩
  intro scheduler started current active built begun later running
  have within := Scheduler.later_follows built begun later active running
  exact (whole 0).of_precedes within.precedes

/-- A poll that takes three intervals, one that stands still and breaks down, and one that
takes exactly one interval. -/
def overrun : List Scripted :=
  [⟨⟨.ofParts 3 0, false, .ok ()⟩, false⟩, ⟨⟨.zero, false, .error .crash⟩, true⟩,
    ⟨⟨.ofParts 1 0, false, .ok ()⟩, false⟩]

theorem histories_keep_timetable_overrun :
    let second := Span.ofParts 1 0
    let script := overrun.map Scripted.outcome
    let whole := (Loop.new second).run script
    0 < second.nanos ∧ second.nanos ≤ maxDelay ∧
      (∀ poll ∈ overrun, Regular second poll.outcome.takes) ∧
      OnTimetable second script whole ∧
      whole.entries = #[⟨0, second⟩, ⟨4000000000, .ofParts 4 0⟩, ⟨5000000000, second⟩,
        ⟨7000000000, .ofParts 2 0⟩] ∧
      whole.sleeps = #[second, second, second] ∧
      (∀ following, whole.entries[1]? = some following →
        IsLeast {instant | (∃ k, instant = 0 + k * second.nanos) ∧ 0 + 3000000000 < instant}
          following.began) ∧
      ∃ scheduler started active, Scheduler.new second = .ok scheduler ∧
        scheduler.start overrun = .ok started ∧ started.dispose.release.active = some active ∧
        OnTimetable second script active.loop ∧
        active.loop.entries = #[⟨0, second⟩, ⟨4000000000, .ofParts 4 0⟩] ∧
        active.loop.sleeps = #[second] := by
  intro second script whole
  have positive : 0 < second.nanos := by decide
  have short : second.nanos ≤ maxDelay := by decide
  have regular : ∀ poll ∈ overrun, Regular second poll.outcome.takes := by
    intro poll scripted
    simp only [overrun, List.mem_cons, List.not_mem_nil, or_false] at scripted
    rcases scripted with rfl | rfl | rfl <;> exact ⟨by decide, by decide⟩
  obtain ⟨kept, keptOn⟩ := histories_keep_timetable positive short regular
  have entries : whole.entries = #[⟨0, second⟩, ⟨4000000000, .ofParts 4 0⟩, ⟨5000000000, second⟩,
      ⟨7000000000, .ofParts 2 0⟩] := by decide +kernel
  have sleeps : whole.sleeps = #[second, second, second] := by decide +kernel
  refine ⟨positive, short, regular, kept 0, entries, sleeps, ?_, ?_⟩
  · intro following next
    have first : whole.entries[0]? = some ⟨0, second⟩ := by rw [entries]; rfl
    obtain ⟨outcome, taken, least, _⟩ := (kept 0).polls 0 _ _ _ first first next
    cases taken
    have took : (Span.ofParts 3 0).nanos = 3000000000 := by decide
    rwa [took] at least
  · -- the poll that stands still is released after the disposal
    let scheduler : Scheduler := ⟨second, .notStarted, none⟩
    let begun : Active := .run (.new second) overrun
    let started := { scheduler with lifecycle := .running }.settle begun
    have later : started.Later started.dispose.release := .release (.dispose .here)
    refine ⟨scheduler, started, begun.cancel.release, rfl, rfl, rfl, ?_, ?_, ?_⟩
    · exact keptOn scheduler started _ _ rfl rfl later rfl
    · decide +kernel
    · decide +kernel

end TrafficMeter.Poll
