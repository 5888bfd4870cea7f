import TrafficMeter.Proofs.Spike.Steady

/-! # Filters forget

What a filter answers depends on the samples that its window shows and on its latest answer,
not on how far the ring has turned. Once a window has been filled with samples that were no
peaks both are known from these samples, whatever the filter has seen before.
-/

namespace TrafficMeter

/-- Rings of one capacity that show the same samples, however far they have turned. -/
structure Ring.SameView {α : Type} (left right : Ring α) : Prop where
  capacity : left.capacity = right.capacity
  samples : left.toList = right.toList

namespace Ring.SameView

variable {α : Type} {left right : Ring α} (same : left.SameView right)
include same

theorem count : left.count = right.count := by
  rw [← length_toList, same.samples, length_toList]

theorem isFull : left.isFull = right.isFull := by
  rw [Bool.eq_iff_iff, isFull_iff, isFull_iff, same.count, same.capacity]

theorem newest? : left.newest? = right.newest? := by
  rw [newest?_eq_getLast?, newest?_eq_getLast?, same.samples]

theorem push (sample : α) : (left.push sample).SameView (right.push sample) := by
  refine ⟨by rw [capacity_push, capacity_push, same.capacity], ?_⟩
  have counted := same.count
  have limit := same.capacity
  rcases Nat.lt_or_eq_of_le left.count_le_capacity with room | full
  · rw [toList_push_of_room sample room, toList_push_of_room sample (by omega), same.samples]
  · rw [toList_push_of_full sample full, toList_push_of_full sample (by omega), same.samples]

end Ring.SameView

namespace Spike

/-- Detectors of one tuning with the same samples in view. -/
structure Detector.SameView (left right : Detector) : Prop where
  window : left.window.SameView right.window
  threshold : left.threshold = right.threshold
  influence : left.influence = right.influence

namespace Detector.SameView

variable {left right : Detector} (same : left.SameView right)
include same

theorem judge (sample : Float) : left.judge sample = right.judge sample := by
  unfold Detector.judge Ring.mean Ring.deviation
  rw [same.window.isFull, same.window.samples, same.window.newest?, same.threshold,
    same.influence]

theorem add (sample : Float) : (left.add sample).1.SameView (right.add sample).1 := by
  refine ⟨?_, same.threshold, same.influence⟩
  simp only [Detector.add, same.judge sample]
  exact same.window.push _

theorem verdicts (samples : List Float) : left.verdicts samples = right.verdicts samples := by
  induction samples generalizing left right with
  | nil => rfl
  | cons sample samples ih =>
      rw [Detector.verdicts, Detector.verdicts, ih (same.add sample)]
      exact congrArg (· :: _) (same.judge sample)

end Detector.SameView

/-- Filters with the same samples in view and the same latest answer. -/
structure Filter.SameView (left right : Filter) : Prop where
  detector : left.detector.SameView right.detector
  lastAccepted : left.lastAccepted = right.lastAccepted

namespace Filter.SameView

variable {left right : Filter} (same : left.SameView right)
include same

theorem answer (value : Float) : (left.apply value).2 = (right.apply value).2 := by
  simp only [apply_eq, same.detector.judge value, same.lastAccepted]

theorem apply (value : Float) : (left.apply value).1.SameView (right.apply value).1 := by
  refine ⟨?_, ?_⟩
  · rw [detector_apply, detector_apply]
    exact same.detector.add value
  · rw [lastAccepted_apply, lastAccepted_apply, same.answer value]

theorem answers (values : List Float) : left.answers values = right.answers values := by
  induction values generalizing left right with
  | nil => rfl
  | cons value values ih =>
      rw [Filter.answers, Filter.answers, same.answer value, ih (same.apply value)]

end Filter.SameView

namespace Filter

variable {params : Params} {fresh left right : Filter}

/-- A full window of samples that were no peaks, and the last of them as the answer to the
next peak. -/
theorem view_of_unnoticed (built : Filter.new params = .ok fresh) (history : List Float)
    {samples : List Float} (turned : samples.length = params.lag)
    (unnoticed : ∀ verdict ∈ (fresh.feed history).detector.verdicts samples,
      verdict.peak = .none) :
    (fresh.feed (history ++ samples)).detector.window.toList = samples ∧
      some (fresh.feed (history ++ samples)).lastAccepted = samples.getLast? := by
  refine ⟨?_, ?_⟩
  · rw [window_feed_append built history turned, Detector.adjusted_verdicts_of_none unnoticed]
  · obtain ⟨positive, _⟩ := window_eq_empty built
    cases samples using List.reverseRecOn with
    | nil => exact absurd turned (Nat.ne_of_lt positive)
    | append_singleton samples sample =>
        rw [feed_append, lastAccepted_of_none _ unnoticed, List.getLast?_concat]

theorem capacity_feed (built : Filter.new params = .ok fresh) (samples : List Float) :
    (fresh.feed samples).detector.window.capacity = params.lag := by
  rw [detector_feed, Ring.capacity_pushAll, (window_of_new built).2]

/-- Whatever two filters of one tuning have seen, they are alike once both have taken the same
samples for no peaks and have nothing else in their windows. -/
theorem sameView_of_unnoticed (built : Filter.new params = .ok fresh) (one other : List Float)
    {samples : List Float} (turned : samples.length = params.lag)
    (one_unnoticed : ∀ verdict ∈ (fresh.feed one).detector.verdicts samples,
      verdict.peak = .none)
    (other_unnoticed : ∀ verdict ∈ (fresh.feed other).detector.verdicts samples,
      verdict.peak = .none) :
    (fresh.feed (one ++ samples)).SameView (fresh.feed (other ++ samples)) := by
  obtain ⟨view, last⟩ := view_of_unnoticed built one turned one_unnoticed
  obtain ⟨view', last'⟩ := view_of_unnoticed built other turned other_unnoticed
  have window : (fresh.feed (one ++ samples)).detector.window.SameView
      (fresh.feed (other ++ samples)).detector.window := by
    refine ⟨?_, view.trans view'.symm⟩
    rw [capacity_feed built, capacity_feed built]
  refine ⟨⟨window, ?_, ?_⟩, Option.some_inj.mp (last.trans last'.symm)⟩
  · rw [detector_feed, detector_feed]
  · rw [detector_feed, detector_feed]

/-- Two filters of one tuning that have taken as many equal samples for no peaks as their
windows hold give the same verdicts and answers from then on, whatever either of them had seen
before and however far its ring has turned. -/
theorem answers_forget_history (left_built : Filter.new params = .ok left)
    (right_built : Filter.new params = .ok right) (left_history right_history : List Float)
    {common : List Float} (turned : common.length = params.lag)
    (left_unnoticed : ∀ verdict ∈ (left.feed left_history).detector.verdicts common,
      verdict.peak = .none)
    (right_unnoticed : ∀ verdict ∈ (right.feed right_history).detector.verdicts common,
      verdict.peak = .none)
    (samples : List Float) :
    let one := left.feed (left_history ++ common)
    let other := right.feed (right_history ++ common)
    one.answers samples = other.answers samples ∧
      one.detector.verdicts samples = other.detector.verdicts samples := by
  intro one other
  obtain rfl : left = right := Except.ok.inj (left_built.symm.trans right_built)
  have same : one.SameView other :=
    sameView_of_unnoticed left_built _ _ turned left_unnoticed right_unnoticed
  exact ⟨same.answers samples, same.detector.verdicts samples⟩

theorem answers_forget_history_turned :
    Filter.new ⟨2, 1.0, 0.25⟩ = .ok damping ∧
      let one := damping.feed [7.0, 100.0, 100.0]
      let other := damping.feed [90.0, 120.0, 100.0, 100.0]
      one.detector.window.start = 1 ∧ other.detector.window.start = 0 ∧
        ∀ samples, one.answers samples = other.answers samples := by
  have built : Filter.new ⟨2, 1.0, 0.25⟩ = .ok damping := rfl
  have one_unnoticed : ∀ verdict ∈ (damping.feed [7.0]).detector.verdicts [100.0, 100.0],
      verdict.peak = .none := by
    decide +kernel
  have other_unnoticed :
      ∀ verdict ∈ (damping.feed [90.0, 120.0]).detector.verdicts [100.0, 100.0],
        verdict.peak = .none := by
    decide +kernel
  refine ⟨built, by decide +kernel, by decide +kernel, ?_⟩
  intro samples
  exact (answers_forget_history built built [7.0] [90.0, 120.0] rfl one_unnoticed
    other_unnoticed samples).1

end Filter

end Spike

end TrafficMeter
