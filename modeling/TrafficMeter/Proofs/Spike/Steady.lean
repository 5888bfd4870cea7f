import TrafficMeter.Proofs.Sample.Constant
import TrafficMeter.Proofs.Spike.Answers

/-! # A spike on steady traffic

Once the window is full of samples that were no peaks it holds them as they were. If they
are all equal and their mean is exact they have no deviation, so whatever is larger is an
upward peak at every threshold, and is answered by the steady value.
-/

namespace TrafficMeter.Spike

open Binary64

variable {params : Params} {detector : Detector}

/-- A detector of a tuning, with a full window. -/
structure Detector.Ready (params : Params) (detector : Detector) : Prop where
  full : detector.window.isFull = true
  capacity : detector.window.capacity = params.lag
  threshold : detector.threshold = params.threshold
  influence : detector.influence = params.influence

namespace Detector

theorem Ready.length_toList (ready : Ready params detector) :
    detector.window.toList.length = params.lag := by
  rw [Ring.length_toList, (Ring.isFull_iff _).mp ready.full, ready.capacity]

theorem Ready.add (ready : Ready params detector) (sample : Float) :
    Ready params (detector.add sample).1 := by
  have full := (Ring.isFull_iff _).mp ready.full
  refine ⟨?_, ?_, ready.threshold, ready.influence⟩
  · rw [Ring.isFull_iff]
    simp only [Detector.add, Ring.capacity_push, Ring.count_push_of_full _ full]
  · simp only [Detector.add, Ring.capacity_push, ready.capacity]

theorem Ready.judge (ready : Ready params detector) (sample : Float) :
    detector.judge sample =
      let mean := Sample.mean detector.window.toList
      if params.threshold * Sample.deviation detector.window.toList mean < (sample - mean).abs then
        ⟨if mean < sample then .above else .below,
          params.influence * sample +
            (1.0 - params.influence) * detector.window.newest?.getD sample⟩
      else ⟨.none, sample⟩ := by
  simp only [Detector.judge, ready.full, if_true, ready.threshold, ready.influence]
  rfl

/-- Whatever exceeds the mean of a window without deviation is an upward peak. -/
theorem Ready.above_of_no_deviation (ready : Ready params detector)
    (finite : params.threshold.isFinite = true) {mean sample : Float}
    (given : Sample.mean detector.window.toList = mean)
    (none : IsZero (Sample.deviation detector.window.toList mean))
    (mean_finite : mean.isFinite = true) (mean_nonneg : 0 ≤ mean)
    (sample_finite : sample.isFinite = true) (higher : mean < sample) :
    (detector.judge sample).peak = .above := by
  obtain ⟨m, e, positive, parts⟩ := positive_of_lt mean_nonneg higher mean_finite sample_finite
  have distance := reaches_sub_of_lt higher parts
  have far : params.threshold * Sample.deviation detector.window.toList mean <
      (sample - mean).abs := by
    rw [abs_of_reaches (gap_pos e) distance]
    exact (none.finite_mul finite).lt_of_reaches (gap_pos e) distance
  rw [ready.judge, given]
  simp only [far, higher, if_true]

theorem adjusted_of_none {sample : Float} (none : (detector.judge sample).peak = .none) :
    (detector.judge sample).adjusted = sample := by
  rcases detector.judge_cases sample with judged | ⟨_, ⟨_, judged⟩ | ⟨_, judged⟩⟩
  · rw [judged]
  · rw [judged] at none
    cases none
  · rw [judged] at none
    cases none

/-- Samples that are no peaks enter the window as they are. -/
theorem adjusted_verdicts_of_none {samples : List Float}
    (none : ∀ verdict ∈ detector.verdicts samples, verdict.peak = .none) :
    (detector.verdicts samples).map (·.adjusted) = samples := by
  induction samples generalizing detector with
  | nil => rfl
  | cons sample samples ih =>
      rw [verdicts] at *
      have first : (detector.judge sample).peak = .none := none _ List.mem_cons_self
      rw [List.map_cons, ih fun verdict later => none verdict (List.mem_cons_of_mem _ later)]
      exact congrArg (· :: samples) (adjusted_of_none first)

end Detector

namespace Filter

variable {fresh : Filter}

theorem feed_append (filter : Filter) (before after : List Float) :
    filter.feed (before ++ after) = (filter.feed before).feed after :=
  List.foldl_append

theorem verdicts_append (filter : Filter) (before after : List Float) :
    filter.detector.verdicts (before ++ after) =
      filter.detector.verdicts before ++ (filter.feed before).detector.verdicts after := by
  induction before generalizing filter with
  | nil => rfl
  | cons sample before ih =>
      have rest := ih (filter.apply sample).1
      rw [detector_apply] at rest
      rw [List.cons_append, Detector.verdicts, Detector.verdicts, rest]
      rfl

/-- A filter that has seen as many samples as its window takes. -/
theorem ready_feed (built : Filter.new params = .ok fresh) {samples : List Float}
    (enough : params.lag ≤ samples.length) :
    Detector.Ready params (fresh.feed samples).detector := by
  obtain ⟨detector, detected, rfl⟩ := of_new built
  obtain ⟨positive, rfl, _⟩ := Detector.of_new detected
  rw [detector_feed]
  refine ⟨?_, Ring.capacity_pushAll _ _, rfl, rfl⟩
  rw [Ring.isFull_iff, Ring.count_pushAll_empty, Ring.capacity_pushAll, List.length_map,
    Detector.length_verdicts]
  exact Nat.min_eq_right enough

/-- Once the window has turned over, nothing of the samples before is left in it. -/
theorem window_feed_append (built : Filter.new params = .ok fresh) (history : List Float)
    {samples : List Float} (turned : samples.length = params.lag) :
    (fresh.feed (history ++ samples)).detector.window.toList =
      ((fresh.feed history).detector.verdicts samples).map (·.adjusted) := by
  obtain ⟨positive, window⟩ := window_eq_empty built
  rw [detector_feed, window, Ring.toList_pushAll, verdicts_append, List.map_append, List.rtake]
  apply List.drop_left'
  rw [List.length_append, List.length_map, List.length_map, Detector.length_verdicts,
    Detector.length_verdicts, turned, Nat.add_sub_cancel]

theorem lastAccepted_feed_concat (filter : Filter) (samples : List Float) (sample : Float) :
    (filter.feed (samples ++ [sample])).lastAccepted = ((filter.feed samples).apply sample).2 := by
  rw [feed_append]
  exact lastAccepted_apply _ _

/-- The answer to a sample that was no peak is the sample, and answers the next peak. -/
theorem lastAccepted_of_none (filter : Filter) {samples : List Float} {sample : Float}
    (none : ∀ verdict ∈ filter.detector.verdicts (samples ++ [sample]), verdict.peak = .none) :
    (filter.feed (samples ++ [sample])).lastAccepted = sample := by
  have last : ((filter.feed samples).detector.judge sample).peak = .none := by
    apply none
    rw [verdicts_append]
    exact List.mem_append_right _ List.mem_cons_self
  have passed : ((filter.feed samples).detector.judge sample).peak ≠ .above := by
    rw [last]
    decide
  rw [lastAccepted_feed_concat, answer_of_passed passed, Detector.adjusted_of_none last]

theorem lag_lt_word (built : Filter.new params = .ok fresh) : params.lag < 2 ^ 64 := by
  obtain ⟨detector, detected, _⟩ := of_new built
  obtain ⟨_, _, fits, _⟩ := Detector.of_new detected
  unfold Ring.maxCapacity at fits
  omega

/-- Whatever exceeds a steady value is an upward peak, and the steady value answers it. -/
theorem spike_on_steady_suppressed (built : Filter.new params = .ok fresh)
    (several : 2 ≤ params.lag) (finite : params.threshold.isFinite = true) (history : List Float)
    {steady spike : Float} (steady_finite : steady.isFinite = true) (steady_nonneg : 0 ≤ steady)
    (exact_mean : Sample.mean (List.replicate params.lag steady) = steady)
    (unnoticed : ∀ verdict ∈
      (fresh.feed history).detector.verdicts (List.replicate params.lag steady),
      verdict.peak = .none)
    (spike_finite : spike.isFinite = true) (higher : steady < spike) :
    let filter := fresh.feed (history ++ List.replicate params.lag steady)
    (filter.detector.add spike).2.peak = .above ∧ (filter.apply spike).2 = steady := by
  intro filter
  have ready : Detector.Ready params filter.detector := ready_feed built (by simp)
  have window : filter.detector.window.toList = List.replicate params.lag steady := by
    rw [window_feed_append built history List.length_replicate,
      Detector.adjusted_verdicts_of_none unnoticed]
  have last : filter.lastAccepted = steady := by
    obtain ⟨before, grown⟩ := Nat.exists_eq_add_one_of_ne_zero (show params.lag ≠ 0 by omega)
    change (fresh.feed (history ++ List.replicate params.lag steady)).lastAccepted = steady
    rw [grown, List.replicate_succ'] at unnoticed ⊢
    rw [feed_append]
    exact lastAccepted_of_none _ unnoticed
  have no_deviation : IsZero (Sample.deviation filter.detector.window.toList steady) := by
    rw [window]
    apply Sample.isZero_deviation
    · intro sample given
      rw [List.eq_of_mem_replicate given, sub_self_of_finite steady_finite]
      exact isZero_zero
    · simpa using several
    · simpa using lag_lt_word built
  have peak : (filter.detector.judge spike).peak = .above := by
    rw [← window] at exact_mean
    exact ready.above_of_no_deviation finite exact_mean no_deviation steady_finite steady_nonneg
      spike_finite higher
  refine ⟨peak, ?_⟩
  rw [apply_eq]
  simp only [peak, if_true, last]

theorem spike_on_steady_suppressed_doubled :
    Filter.new ⟨2, 1.0, 0.25⟩ = .ok damping ∧
      let filter := damping.feed [7.0, 100.0, 100.0]
      (filter.detector.add 200.0).2.peak = .above ∧ (filter.apply 200.0).2 = 100.0 := by
  have built : Filter.new ⟨2, 1.0, 0.25⟩ = .ok damping := rfl
  refine ⟨built, ?_⟩
  apply spike_on_steady_suppressed built (by decide) rfl [7.0]
  · rfl
  · decide +kernel
  · decide +kernel
  · decide +kernel
  · rfl
  · decide +kernel

end Filter

end TrafficMeter.Spike
