import TrafficMeter.Proofs.Sample.Latest
import TrafficMeter.Spike.Filter

/-! # The answers of a filter

A filter couples three states: the ring of adjusted samples, the detector that reads it, and
the latest value that passed. Over any run the ring holds the latest adjusted samples, and
an upward peak is answered by repeating the answer before it. The first samples are never
peaks, so there is always an answer to repeat.
-/

namespace TrafficMeter.Spike

variable {params : Params}

theorem Detector.of_new {detector : Detector} (built : Detector.new params = .ok detector) :
    ∃ positive : 0 < params.lag,
      detector = ⟨Ring.empty Float params.lag positive, params.threshold, params.influence⟩ ∧
        params.lag ≤ Ring.maxCapacity ∧
        params.threshold.isNaN = false ∧ ¬params.threshold ≤ 0 ∧
        0 ≤ params.influence ∧ params.influence ≤ 1 := by
  cases ring : Ring.new Float params.lag with
  | error fault => simp [Detector.new, ring, bind, Except.bind] at built
  | ok window =>
      obtain ⟨positive, rfl⟩ := Ring.eq_empty_of_new ring
      have fits : params.lag ≤ Ring.maxCapacity := by
        by_contra large
        simp [Ring.new, positive, large] at ring
      simp only [Detector.new, ring, Attempt.widen_ok, bind, Except.bind, throw, throwThe,
        MonadExceptOf.throw, pure, Except.pure] at built
      split at built
      · cases built
      · rename_i usable
        split at built <;> cases built
        rename_i within
        simp only [Bool.or_eq_true, not_or, Bool.not_eq_true, decide_eq_true_eq] at usable
        simp only [Bool.not_eq_true', Bool.not_eq_false, Bool.and_eq_true,
          decide_eq_true_eq] at within
        exact ⟨positive, rfl, fits, usable.1, usable.2, within.1, within.2⟩

namespace Detector

/-- All that a detector says of a sample: nothing, or a peak on either side of the mean. -/
theorem judge_cases (detector : Detector) (sample : Float) :
    let blend := detector.influence * sample +
      (1.0 - detector.influence) * detector.window.newest?.getD sample
    detector.judge sample = ⟨.none, sample⟩ ∨
      detector.window.isFull = true ∧
        (detector.window.mean < sample ∧ detector.judge sample = ⟨.above, blend⟩ ∨
          ¬detector.window.mean < sample ∧ detector.judge sample = ⟨.below, blend⟩) := by
  intro blend
  by_cases full : detector.window.isFull = true
  · by_cases far : detector.threshold * detector.window.deviation detector.window.mean <
        (sample - detector.window.mean).abs
    · right
      refine ⟨full, ?_⟩
      by_cases higher : detector.window.mean < sample
      · left
        refine ⟨higher, ?_⟩
        rw [judge, if_pos full]
        dsimp only
        rw [if_pos far, if_pos higher]
      · right
        refine ⟨higher, ?_⟩
        rw [judge, if_pos full]
        dsimp only
        rw [if_pos far, if_neg higher]
    · left
      rw [judge, if_pos full]
      exact if_neg far
  · left
    rw [judge, if_neg full]

/-- Before the window is full no sample is a peak. -/
theorem judge_of_room {detector : Detector} (sample : Float)
    (room : detector.window.count < detector.window.capacity) :
    detector.judge sample = ⟨.none, sample⟩ := by
  have not_full : detector.window.isFull = false := by
    rw [← Bool.not_eq_true, Ring.isFull_iff]
    omega
  simp [judge, not_full]

theorem getElem?_verdicts_of_room {detector : Detector} {samples : List Float} {k : Nat}
    (room : detector.window.count + k < detector.window.capacity) :
    (detector.verdicts samples)[k]? = samples[k]?.map fun sample => ⟨.none, sample⟩ := by
  induction samples generalizing detector k with
  | nil => rfl
  | cons sample samples ih =>
      have first := judge_of_room sample (Nat.lt_of_le_of_lt (Nat.le_add_right _ _) room)
      cases k with
      | zero => simp [verdicts, add, first]
      | succ k =>
          rw [verdicts, List.getElem?_cons_succ, List.getElem?_cons_succ]
          apply ih
          simp only [add, Ring.capacity_push]
          rw [Ring.count_push_of_room _ (by omega)]
          omega

theorem length_verdicts (detector : Detector) (samples : List Float) :
    (detector.verdicts samples).length = samples.length := by
  induction samples generalizing detector with
  | nil => rfl
  | cons sample samples ih => rw [verdicts, List.length_cons, ih, List.length_cons]

end Detector

namespace Filter

variable {fresh : Filter}

theorem of_new (built : Filter.new params = .ok fresh) :
    ∃ detector, Detector.new params = .ok detector ∧ fresh = ⟨detector, 0.0⟩ := by
  cases detected : Detector.new params with
  | error fault => simp [Filter.new, detected, bind, Except.bind] at built
  | ok detector =>
      simp only [Filter.new, detected, bind, Except.bind, pure, Except.pure,
        Except.ok.injEq] at built
      exact ⟨detector, rfl, built.symm⟩

/-- An accepted tuning starts with an empty window of its lag. -/
theorem window_eq_empty (built : Filter.new params = .ok fresh) :
    ∃ positive : 0 < params.lag, fresh.detector.window = Ring.empty Float params.lag positive := by
  obtain ⟨detector, detected, rfl⟩ := of_new built
  obtain ⟨positive, rfl, _⟩ := Detector.of_new detected
  exact ⟨positive, rfl⟩

theorem window_of_new (built : Filter.new params = .ok fresh) :
    fresh.detector.window.count = 0 ∧ fresh.detector.window.capacity = params.lag := by
  obtain ⟨positive, window⟩ := window_eq_empty built
  rw [window]
  exact ⟨rfl, rfl⟩

@[simp] theorem feed_cons (filter : Filter) (sample : Float) (samples : List Float) :
    filter.feed (sample :: samples) = (filter.apply sample).1.feed samples := rfl

theorem length_answers (filter : Filter) (samples : List Float) :
    (filter.answers samples).length = samples.length := by
  induction samples generalizing filter with
  | nil => rfl
  | cons sample samples ih => rw [answers, List.length_cons, ih, List.length_cons]

theorem apply_eq (filter : Filter) (value : Float) :
    filter.apply value =
      let verdict := filter.detector.judge value
      let answer := if verdict.peak = .above then filter.lastAccepted else verdict.adjusted
      (⟨(filter.detector.add value).1, answer⟩, answer) := by
  simp only [apply, Detector.add]
  cases (filter.detector.judge value).peak <;> simp

/-- The value that answers the next upward peak is the latest answer. -/
theorem lastAccepted_apply (filter : Filter) (value : Float) :
    (filter.apply value).1.lastAccepted = (filter.apply value).2 := by
  rw [apply_eq]

/-- What is no upward peak is answered by its adjusted value. -/
theorem answer_of_passed {filter : Filter} {value : Float}
    (passed : (filter.detector.judge value).peak ≠ .above) :
    (filter.apply value).2 = (filter.detector.judge value).adjusted := by
  rw [apply_eq]
  exact if_neg passed

/-- A filter with room in its window hands on what it is given. -/
theorem answer_of_room {filter : Filter} (value : Float)
    (room : filter.detector.window.count < filter.detector.window.capacity) :
    (filter.apply value).2 = value := by
  have judged := Detector.judge_of_room value room
  rw [answer_of_passed, judged]
  simp [judged]

theorem detector_apply (filter : Filter) (value : Float) :
    (filter.apply value).1.detector = (filter.detector.add value).1 := by
  rw [apply_eq]

theorem detector_feed (filter : Filter) (samples : List Float) :
    (filter.feed samples).detector =
      { filter.detector with
        window := filter.detector.window.pushAll
          ((filter.detector.verdicts samples).map (·.adjusted)) } := by
  induction samples generalizing filter with
  | nil => rfl
  | cons sample samples ih =>
      rw [feed_cons, ih, detector_apply]
      rfl

/-- The window fills up with the adjusted samples, up to its capacity. -/
theorem count_feed (filter : Filter) (samples : List Float) :
    (filter.feed samples).detector.window.count =
      min (filter.detector.window.count + samples.length) filter.detector.window.capacity := by
  rw [detector_feed, Ring.count_pushAll, List.length_map, Detector.length_verdicts]

/-- A sample is answered by its adjusted value, or as an upward peak by the answer before it;
for the first sample that is the value which passed last before the run. -/
theorem getElem?_answers (filter : Filter) (samples : List Float) {k : Nat} {verdict : Verdict}
    (judged : (filter.detector.verdicts samples)[k]? = some verdict) :
    (filter.answers samples)[k]? =
      if verdict.peak = .above then (filter.lastAccepted :: filter.answers samples)[k]?
      else some verdict.adjusted := by
  induction samples generalizing filter k with
  | nil => simp [Detector.verdicts] at judged
  | cons sample samples ih =>
      rw [answers, Detector.verdicts] at *
      cases k with
      | zero =>
          have first : (filter.detector.add sample).2 = verdict := by simpa using judged
          have same : filter.detector.judge sample = verdict := first
          simp only [List.getElem?_cons_zero, apply_eq, same]
          split <;> rfl
      | succ k =>
          rw [← detector_apply, List.getElem?_cons_succ] at judged
          have rest := ih (filter.apply sample).1 judged
          rwa [lastAccepted_apply] at rest

variable {samples : List Float}

theorem getElem?_verdicts_of_lt (built : Filter.new params = .ok fresh) {k : Nat}
    (early : k < params.lag) :
    (fresh.detector.verdicts samples)[k]? = samples[k]?.map fun sample => ⟨.none, sample⟩ := by
  obtain ⟨positive, window⟩ := window_eq_empty built
  apply Detector.getElem?_verdicts_of_room
  rw [window]
  simpa [Ring.count, Ring.empty] using early

/-- An upward peak comes after the window has filled, and repeats the answer before it. -/
theorem getElem?_answers_of_above (built : Filter.new params = .ok fresh) {k : Nat}
    {verdict : Verdict} (judged : (fresh.detector.verdicts samples)[k]? = some verdict)
    (above : verdict.peak = .above) :
    params.lag ≤ k ∧ (fresh.answers samples)[k]? = (fresh.answers samples)[k - 1]? := by
  have late : params.lag ≤ k := by
    by_contra early
    rw [getElem?_verdicts_of_lt built (Nat.lt_of_not_le early), Option.map_eq_some_iff] at judged
    obtain ⟨sample, _, rfl⟩ := judged
    cases above
  obtain ⟨positive, _⟩ := window_eq_empty built
  obtain ⟨before, rfl⟩ := Nat.exists_eq_add_one_of_ne_zero (Nat.ne_of_gt (positive.trans_le late))
  refine ⟨late, ?_⟩
  rw [getElem?_answers fresh samples judged, if_pos above]
  rfl

/-- Over a run of upward peaks the answer stays what it was before the run. -/
theorem getElem?_answers_of_run (built : Filter.new params = .ok fresh) {i j : Nat} (le : i ≤ j)
    (inside : j < samples.length)
    (above : ∀ k verdict, i < k → k ≤ j →
      (fresh.detector.verdicts samples)[k]? = some verdict → verdict.peak = .above) :
    (fresh.answers samples)[j]? = (fresh.answers samples)[i]? := by
  induction j, le using Nat.le_induction with
  | base => rfl
  | succ j le ih =>
      have judged : j + 1 < (fresh.detector.verdicts samples).length := by
        rw [Detector.length_verdicts]
        exact inside
      have peak := above (j + 1) _ (Nat.lt_succ_of_le le) (Nat.le_refl _)
        (List.getElem?_eq_getElem judged)
      have repeated := (getElem?_answers_of_above built (List.getElem?_eq_getElem judged) peak).2
      rw [Nat.add_sub_cancel] at repeated
      rw [repeated]
      apply ih (Nat.lt_of_succ_lt inside)
      intro k verdict later within
      exact above k verdict later (Nat.le_succ_of_le within)

/-- What a new filter holds as its latest value is never answered. -/
theorem answers_with_lastAccepted (built : Filter.new params = .ok fresh) (initial : Float) :
    ({ fresh with lastAccepted := initial } : Filter).answers samples = fresh.answers samples := by
  obtain ⟨positive, window⟩ := window_eq_empty built
  cases samples with
  | nil => rfl
  | cons sample samples =>
      have first : fresh.detector.judge sample = ⟨.none, sample⟩ := by
        apply Detector.judge_of_room
        rw [window]
        exact positive
      simp [answers, apply_eq, first]

/-- Over every run of a new filter the window holds the latest adjusted samples. The first
samples pass unchanged; later ones are answered by their adjusted value, or as upward peaks
by the answer before, which a run of such peaks repeats. -/
theorem answers_follow_verdicts (built : Filter.new params = .ok fresh) (samples : List Float) :
    let verdicts := fresh.detector.verdicts samples
    let answers := fresh.answers samples
    (fresh.feed samples).detector.window.toList =
        (verdicts.map (·.adjusted)).rtake params.lag ∧
      (∀ k sample, k < params.lag → samples[k]? = some sample →
        verdicts[k]? = some ⟨.none, sample⟩ ∧ answers[k]? = some sample) ∧
      (∀ k, params.lag ≤ k → k < samples.length → ∃ verdict, verdicts[k]? = some verdict ∧
        answers[k]? = if verdict.peak = .above then answers[k - 1]? else some verdict.adjusted) ∧
      (∀ initial,
        ({ fresh with lastAccepted := initial } : Filter).answers samples = answers) ∧
      ∀ i j, i ≤ j → j < samples.length →
        (∀ k verdict, i < k → k ≤ j → verdicts[k]? = some verdict → verdict.peak = .above) →
        answers[j]? = answers[i]? := by
  intro verdicts answers
  refine ⟨?_, ?_, ?_, fun initial => answers_with_lastAccepted built initial, ?_⟩
  · obtain ⟨positive, window⟩ := window_eq_empty built
    rw [detector_feed, window, Ring.toList_pushAll]
  · intro k sample early given
    have judged : verdicts[k]? = some ⟨.none, sample⟩ := by
      simp only [verdicts, getElem?_verdicts_of_lt built early, given, Option.map_some]
    refine ⟨judged, ?_⟩
    exact getElem?_answers fresh samples judged
  · intro k late inside
    have judged : k < verdicts.length := by
      rw [Detector.length_verdicts]
      exact inside
    refine ⟨verdicts[k], List.getElem?_eq_getElem judged, ?_⟩
    split
    · rename_i above
      exact (getElem?_answers_of_above built (List.getElem?_eq_getElem judged) above).2
    · rename_i passed
      rw [getElem?_answers fresh samples (List.getElem?_eq_getElem judged), if_neg passed]
  · intro i j le inside above
    exact getElem?_answers_of_run built le inside above

/-- A new filter that takes a quarter of a peak into its window of two samples. -/
def damping : Filter := ⟨⟨Ring.empty Float 2 (by decide), 1.0, 0.25⟩, 0.0⟩

theorem answers_follow_verdicts_damped :
    Filter.new ⟨2, 1.0, 0.25⟩ = .ok damping ∧
      let samples := [10.0, 10.0, 50.0, 60.0, 25.0]
      (damping.feed samples).detector.window.toList = [30.0, 25.0] ∧
        (damping.answers samples)[1]? = some 10.0 ∧
        (damping.answers samples)[3]? = (damping.answers samples)[1]? := by
  have built : Filter.new ⟨2, 1.0, 0.25⟩ = .ok damping := rfl
  have judged : damping.detector.verdicts [10.0, 10.0, 50.0, 60.0, 25.0] =
      [⟨.none, 10.0⟩, ⟨.none, 10.0⟩, ⟨.above, 20.0⟩, ⟨.above, 30.0⟩, ⟨.none, 25.0⟩] := by
    decide +kernel
  obtain ⟨window, first, _, _, run⟩ := answers_follow_verdicts built [10.0, 10.0, 50.0, 60.0, 25.0]
  rw [judged] at window run
  refine ⟨built, window, (first 1 10.0 (by decide) rfl).2, ?_⟩
  apply run 1 3 (by decide) (by decide)
  intro k verdict later within peak
  obtain rfl | rfl : k = 2 ∨ k = 3 := by omega
  · cases peak
    rfl
  · cases peak
    rfl

end Filter

end TrafficMeter.Spike
