import Mathlib.Data.List.Forall2
import Mathlib.Data.List.TakeWhile
import TrafficMeter.Proofs.Poll.Timetable
import TrafficMeter.Proofs.Report.Chain

/-! # How a run ends

A run makes one poll after the other up to the first one that leaves the loop cancelled
or reports a cancellation, at whatever depth of its error. How the polls before that one
came out is not to be seen in the run: only the times that they took are. Nor are the contexts
that any of the polls put around its error.
-/

namespace TrafficMeter

namespace Poll

namespace Outcome

variable {outcome mended other : Outcome} {script repaired : List Outcome}

/-- The loop is cancelled after the poll, or the poll fails with an error that has a
cancellation in its chain. -/
def Ends (outcome : Outcome) : Prop :=
  outcome.cancels = true ∨ ∃ report, outcome.result = .error (.error report) ∧
    ∃ cause, Failure.cancelled cause ∈ report.chain

theorem ends_iff : outcome.Ends ↔ outcome.cancels = true ∨ outcome.isCancellation = true := by
  unfold Ends isCancellation
  rcases outcome.result with fault | _
  · cases fault with
    | error report => simp [Report.isCancellation_iff]
    | crash => simp
  · simp

instance : DecidablePred Ends := fun _ => decidable_of_iff _ ends_iff.symm

theorem cancellation_ends : cancellation.Ends :=
  .inr ⟨_, rfl, .cancelled, List.mem_singleton_self _⟩

/-- The polls of a script before the first one that ends the loop. -/
def outlasted (script : List Outcome) : List Outcome := script.takeWhile (¬ ·.Ends)

/-- The first poll of a script that ends the loop; a cancellation if there is none. -/
def final (script : List Outcome) : Outcome := (script.find? (·.Ends)).getD cancellation

/-- The polls of a script that are made. -/
def performed (script : List Outcome) : List Outcome := outlasted script ++ [final script]

theorem not_ends_of_outlasted (inside : outcome ∈ outlasted script) : ¬ outcome.Ends := by
  simpa using List.mem_takeWhile_imp inside

theorem final_ends (script : List Outcome) : (final script).Ends := by
  cases found : script.find? (·.Ends) with
  | none => simpa [final, found] using cancellation_ends
  | some outcome => simpa [final, found] using List.find?_some found

theorem performed_cons_of_ends (ends : outcome.Ends) :
    performed (outcome :: script) = [outcome] := by
  simp [performed, outlasted, final, ends]

theorem performed_cons_of_not_ends (goes : ¬ outcome.Ends) :
    performed (outcome :: script) = outcome :: performed script := by
  simp [performed, outlasted, final, goes]

/-- No poll is made after one that ends the loop. -/
theorem length_performed_le {i : Nat} (there : script[i]? = some outcome) (ends : outcome.Ends) :
    (performed script).length ≤ i + 1 := by
  induction script generalizing i with
  | nil => simp at there
  | cons first script ih =>
      by_cases at_once : first.Ends
      · simp [performed_cons_of_ends at_once]
      · rw [performed_cons_of_not_ends at_once, List.length_cons]
        cases i with
        | zero => cases there; contradiction
        | succ i => exact Nat.succ_le_succ (ih there)

/-- A poll comes out as it did, or well where it did not report a cancellation. -/
inductive Mends (outcome : Outcome) : Outcome → Prop where
  | same : Mends outcome outcome
  | success : (∀ report, outcome.result = .error (.error report) →
      ∀ cause, Failure.cancelled cause ∉ report.chain) →
      Mends outcome { outcome with result := .ok () }

namespace Mends

theorem takes_eq (mends : outcome.Mends mended) : mended.takes = outcome.takes := by
  cases mends <;> rfl

theorem ends_iff (mends : outcome.Mends mended) : mended.Ends ↔ outcome.Ends := by
  cases mends with
  | same => rfl
  | success ordinary =>
      constructor
      · rintro (cancels | ⟨report, ⟨⟩, _⟩)
        exact .inl cancels
      · rintro (cancels | ⟨report, failed, cause, inside⟩)
        · exact .inl cancels
        · exact absurd inside (ordinary report failed cause)

theorem outlasted_takes (mends : List.Forall₂ Mends script repaired) :
    (outlasted repaired).map takes = (outlasted script).map takes := by
  induction mends with
  | nil => rfl
  | @cons outcome mended script repaired first _ ih =>
      by_cases ends : outcome.Ends
      · simp [outlasted, first.ends_iff, ends]
      · simpa [outlasted, first.ends_iff, ends, first.takes_eq] using ih

end Mends

/-- A poll comes out as it did, or with the same error inside more contexts. -/
inductive Reworded (outcome : Outcome) : Outcome → Prop where
  | same : Reworded outcome outcome
  | inside {report : Report} (failed : outcome.result = .error (.error report))
      (contexts : List String) :
      Reworded outcome { outcome with result := .error (.error (report.withinAll contexts)) }

theorem Reworded.isCancellation_eq (reworded : outcome.Reworded other) :
    other.isCancellation = outcome.isCancellation := by
  cases reworded with
  | same => rfl
  | inside failed contexts => simp [isCancellation, failed]

end Outcome

namespace Loop

open Outcome

variable {loop : Loop} {outcome other : Outcome} {script others : List Outcome}

/-- The loop is neither cancelled nor over. -/
structure Running (loop : Loop) : Prop where
  uncancelled : loop.cancelled = false
  going : loop.ended = false

namespace Running

theorem turn_ended_iff (running : loop.Running) :
    (loop.turn outcome).ended = true ↔ outcome.Ends := by
  obtain ⟨uncancelled, going⟩ := running
  rw [ends_iff, turn, leave]
  cases cancellation : outcome.isCancellation <;> cases cancels : outcome.cancels <;>
    simp [enter, uncancelled, going]

theorem turn_of_not_ends (running : loop.Running) (goes : ¬ outcome.Ends) :
    loop.turn outcome = { loop.enter with
      now := loop.now + outcome.takes.nanos + (next loop.interval outcome.takes).delay.nanos
      cycles := (next loop.interval outcome.takes).cycles
      sleeps := loop.sleeps.push (next loop.interval outcome.takes).delay
      cancelled := false } := by
  have going : (loop.turn outcome).ended = false := by
    rw [Bool.eq_false_iff]
    exact mt running.turn_ended_iff.mp goes
  exact leave_of_going going

theorem turn (running : loop.Running) (goes : ¬ outcome.Ends) : (loop.turn outcome).Running := by
  rw [running.turn_of_not_ends goes]
  exact ⟨rfl, running.going⟩

/-- A poll that ends the loop is entered, and no sleep follows it. -/
theorem turn_of_ends (running : loop.Running) (ends : outcome.Ends) :
    (loop.turn outcome).history = loop.history ++ [loop.told] ∧
      (loop.turn outcome).sleeps = loop.sleeps := by
  refine ⟨?_, leave_sleeps_of_ended running.going (running.turn_ended_iff.mpr ends)⟩
  simp [history, turn_entries]

/-- The polls that a script makes are one after the other what it runs. -/
theorem run_performs (running : loop.Running) (script : List Outcome) :
    loop.run script = (performed script).foldl Loop.turn loop := by
  induction script generalizing loop with
  | nil => rfl
  | cons outcome script ih =>
      by_cases ends : outcome.Ends
      · rw [performed_cons_of_ends ends, run]
        exact if_pos (running.turn_ended_iff.mpr ends)
      · rw [performed_cons_of_not_ends ends, List.foldl_cons, ← ih (running.turn ends), run]
        exact if_neg (mt running.turn_ended_iff.mp ends)

theorem foldl (running : loop.Running) {polls : List Outcome}
    (goes : ∀ outcome ∈ polls, ¬ outcome.Ends) : (polls.foldl Loop.turn loop).Running := by
  induction polls generalizing loop with
  | nil => exact running
  | cons outcome polls ih =>
      have further := running.turn (goes outcome List.mem_cons_self)
      exact ih further (fun later inside => goes later (List.mem_cons_of_mem _ inside))

/-- As long as the loop goes on, only the times that polls take decide what the next ones
are told and how long the loop sleeps. -/
theorem foldl_history (running : loop.Running) {polls : List Outcome}
    (goes : ∀ outcome ∈ polls, ¬ outcome.Ends) :
    let after := polls.foldl Loop.turn loop
    let following := (polls.map takes).map (next loop.interval)
    after.history ++ [after.told] =
        loop.history ++ loop.told :: following.map (loop.interval.scale ·.cycles) ∧
      after.sleeps.toList = loop.sleeps.toList ++ following.map Next.delay := by
  induction polls generalizing loop with
  | nil => simp
  | cons outcome polls ih =>
      have first := goes outcome List.mem_cons_self
      obtain ⟨told, slept⟩ := ih (running.turn first)
        (fun later inside => goes later (List.mem_cons_of_mem _ inside))
      dsimp only [List.foldl_cons]
      rw [told, slept, running.turn_of_not_ends first]
      constructor
      · simp [history, enter, Loop.told]
      · simp

theorem outlasts (running : loop.Running) (script : List Outcome) :
    ((outlasted script).foldl Loop.turn loop).Running :=
  running.foldl fun _ => not_ends_of_outlasted

theorem run_eq (running : loop.Running) (script : List Outcome) :
    loop.run script = ((outlasted script).foldl Loop.turn loop).turn (final script) := by
  rw [running.run_performs, performed, List.foldl_append]
  rfl

theorem run_ended (running : loop.Running) (script : List Outcome) :
    (loop.run script).ended = true := by
  rw [running.run_eq]
  exact (running.outlasts script).turn_ended_iff.mpr (final_ends script)

theorem run_history (running : loop.Running) (script : List Outcome) :
    let following := ((outlasted script).map takes).map (next loop.interval)
    (loop.run script).history =
        loop.history ++ loop.told :: following.map (loop.interval.scale ·.cycles) ∧
      (loop.run script).sleeps.toList = loop.sleeps.toList ++ following.map Next.delay := by
  obtain ⟨told, slept⟩ := (running.outlasts script).turn_of_ends (final_ends script)
  rw [running.run_eq, told, slept]
  exact running.foldl_history fun _ => not_ends_of_outlasted

theorem run_sizes (running : loop.Running) (script : List Outcome) :
    (loop.run script).entries.size = loop.entries.size + (performed script).length ∧
      (loop.run script).sleeps.size + 1 = loop.sleeps.size + (performed script).length := by
  obtain ⟨told, slept⟩ := running.run_history script
  have entered := congrArg List.length told
  have rested := congrArg List.length slept
  simp only [history, List.length_map, List.length_append, List.length_cons,
    Array.length_toList] at entered rested
  simp only [performed, List.length_append, List.length_singleton]
  omega

end Running

theorem leave_reworded (loop : Loop) (reworded : outcome.Reworded other) :
    loop.leave other = loop.leave outcome := by
  have same := reworded.isCancellation_eq
  cases reworded with
  | same => rfl
  | inside failed contexts => rw [leave, leave, same]

/-- A run goes on and ends alike whatever contexts its polls put around their errors. -/
theorem run_reworded (loop : Loop) (reworded : List.Forall₂ Reworded script others) :
    loop.run others = loop.run script := by
  induction reworded generalizing loop with
  | nil => rfl
  | @cons outcome other script others first _ ih =>
      have turned : loop.turn other = loop.turn outcome := leave_reworded loop.enter first
      rw [run, run, turned, ih]

theorem new_running (interval : Span) : (new interval).Running := ⟨rfl, rfl⟩

/-- A run makes the polls of its script, each after the sleep that follows the one
before it, up to the first one that leaves the loop cancelled or reports a cancellation,
and no sleep follows that one. What the polls are told and how long the loop sleeps stay
the same if polls that fail otherwise come out well, and all of the run if polls put more
contexts around their errors. -/
theorem run_ends_by_cancellation (interval : Span) (script : List Outcome) :
    let whole := (new interval).run script
    whole = (performed script).foldl turn (new interval) ∧ whole.ended = true ∧
      (∀ before, before <+: outlasted script →
        (before.foldl turn (new interval)).ended = false) ∧
      whole.history.length = (performed script).length ∧
      whole.sleeps.size + 1 = (performed script).length ∧
      (∀ repaired, List.Forall₂ Mends script repaired →
        ((new interval).run repaired).history = whole.history ∧
          ((new interval).run repaired).sleeps = whole.sleeps) ∧
      ∀ reworded, List.Forall₂ Reworded script reworded →
        (new interval).run reworded = whole := by
  intro whole
  have running := new_running interval
  obtain ⟨told, slept⟩ := running.run_history script
  obtain ⟨entered, rested⟩ := running.run_sizes script
  refine ⟨running.run_performs script, running.run_ended script, ?_, ?_, ?_, ?_,
    fun _ rewords => run_reworded (new interval) rewords⟩
  · intro before early
    have goes : ∀ outcome ∈ before, ¬ outcome.Ends := by
      intro outcome inside
      exact not_ends_of_outlasted (early.subset inside)
    exact (running.foldl goes).going
  · simpa [whole, new, history] using entered
  · simpa [whole, new] using rested
  · -- both runs are decided by the same times
    intro repaired mends
    obtain ⟨told', slept'⟩ := running.run_history repaired
    rw [Mends.outlasted_takes mends] at told' slept'
    exact ⟨told'.trans told.symm, Array.toList_inj.mp (slept'.trans slept.symm)⟩

/-- An error in a context, a fetch that timed out and a poll that breaks down; then a
cancellation inside two contexts, and a poll that is not made any more. -/
def troubled : List Outcome :=
  let unreachable := Report.within "polling" (.of (.message "agent unreachable"))
  let belated := Report.of (.fetch (.timeout (.ofParts 3 0)))
  let cancelled := Report.within "polling" (.within "reading" (.of (.cancelled .cancelled)))
  [⟨.zero, false, .error (.error unreachable)⟩,
    ⟨.ofParts 3 0, false, .error (.error belated)⟩, ⟨.zero, false, .error .crash⟩,
    ⟨.zero, false, .error (.error cancelled)⟩, ⟨.zero, false, .ok ()⟩]

theorem run_ends_by_cancellation_troubled :
    let second := Span.ofParts 1 0
    let whole := (new second).run troubled
    let calm : List Outcome := [⟨.zero, false, .ok ()⟩, ⟨.ofParts 3 0, false, .ok ()⟩,
      ⟨.zero, false, .ok ()⟩]
    let belated := (Report.of (.fetch (.timeout (.ofParts 3 0)))).withinAll
      ["operation cancelled", "polling"]
    let wordy := troubled.set 1 ⟨.ofParts 3 0, false, .error (.error belated)⟩
    List.Forall₂ Mends troubled (calm ++ troubled.drop 3) ∧
      List.Forall₂ Reworded troubled wordy ∧
      whole.history = [second, second, .ofParts 4 0, second] ∧
      ((new second).run (calm ++ troubled.drop 3)).history = whole.history ∧
      ((new second).run (calm ++ troubled.drop 3)).sleeps = whole.sleeps ∧
      (new second).run wordy = whole := by
  intro second whole calm belated wordy
  have mends : List.Forall₂ Mends troubled (calm ++ troubled.drop 3) := by
    refine .cons (.success ?_) (.cons (.success ?_) (.cons (.success ?_)
      (.cons .same (.cons .same .nil))))
    · rintro report ⟨⟩ cause inside
      simp [Report.chain, Report.within, Report.of, Failure.causes] at inside
    · rintro report ⟨⟩ cause inside
      simp [Report.chain, Report.of, Failure.causes] at inside
    · rintro report ⟨⟩
  have rewords : List.Forall₂ Reworded troubled wordy :=
    .cons .same (.cons (.inside rfl _) (.cons .same (.cons .same (.cons .same .nil))))
  have history : whole.history = [second, second, .ofParts 4 0, second] := by decide +kernel
  obtain ⟨_, _, _, _, _, mended, reworded⟩ := run_ends_by_cancellation second troubled
  obtain ⟨told, slept⟩ := mended _ mends
  exact ⟨mends, rewords, history, told, slept, reworded _ rewords⟩

end Loop

end Poll

end TrafficMeter
