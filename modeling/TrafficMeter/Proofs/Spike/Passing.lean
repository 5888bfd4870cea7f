import TrafficMeter.Proofs.Spike.Forgetting
import TrafficMeter.Proofs.Spike.Sustained

/-! # What passes a filter unchanged

A value that does not exceed the mean of the window is answered by itself, unless it lies so
far below that it is a peak: then the answer is blended with the sample before it. Three kinds
of tuning let every such value pass: an infinite threshold and a window of one sample, which
never see a peak, and an influence of one, which takes peaks as they are.
-/

namespace TrafficMeter.Spike

open Binary64

variable {params : Params} {detector : Detector} {filter fresh : Filter} {value : Float}

section Unflagged

theorem Detector.judge_of_near {sample : Float}
    (near : ¬detector.threshold * detector.window.deviation detector.window.mean <
      (sample - detector.window.mean).abs) :
    detector.judge sample = ⟨.none, sample⟩ := by
  unfold judge
  dsimp only
  rw [if_neg near, ite_self]

/-- A single sample has no deviation, and no number of those is exceeded. -/
theorem Detector.judge_of_single (single : detector.window.capacity = 1) (sample : Float) :
    detector.judge sample = ⟨.none, sample⟩ := by
  have short : detector.window.toList.length < 2 := by
    have := detector.window.count_le_capacity
    rw [Ring.length_toList]
    omega
  exact judge_of_near (not_lt_of_isNaN (isNaN_mul (Sample.isNaN_deviation_of_short short)))

/-- No distance exceeds infinitely many deviations. -/
theorem Detector.judge_of_infinite (infinite : parts detector.threshold = .infinity .positive)
    (sample : Float) : detector.judge sample = ⟨.none, sample⟩ := by
  apply judge_of_near
  rcases Sample.isNaN_or_reaches_deviation detector.window.toList detector.window.mean with
    nan | nonneg
  · exact not_lt_of_isNaN (isNaN_mul nan)
  · rcases isNaN_or_infinity_mul infinite nonneg with nan | unbounded
    · exact not_lt_of_isNaN nan
    · exact not_infinity_lt unbounded

theorem Filter.answer_of_unflagged (unflagged : filter.detector.judge value = ⟨.none, value⟩) :
    (filter.apply value).2 = value := by
  have passed : (filter.detector.judge value).peak ≠ .above := by
    rw [unflagged]
    exact nofun
  rw [answer_of_passed passed, unflagged]

end Unflagged

section Single

theorem Detector.verdicts_of_single (single : detector.window.capacity = 1)
    (samples : List Float) :
    detector.verdicts samples = samples.map fun sample => ⟨.none, sample⟩ := by
  induction samples generalizing detector with
  | nil => rfl
  | cons sample samples ih =>
      have next : (detector.add sample).1.window.capacity = 1 :=
        (Ring.capacity_push _ _).trans single
      rw [verdicts, ih next, List.map_cons]
      exact congrArg (· :: _) (judge_of_single single sample)

theorem Filter.answers_of_single (single : filter.detector.window.capacity = 1)
    (samples : List Float) : filter.answers samples = samples := by
  induction samples generalizing filter with
  | nil => rfl
  | cons sample samples ih =>
      have next : (filter.apply sample).1.detector.window.capacity = 1 := by
        rw [detector_apply]
        exact (Ring.capacity_push _ _).trans single
      rw [answers, ih next, answer_of_unflagged (Detector.judge_of_single single sample)]

/-- A filter whose window takes one sample lets everything pass, whatever it is: no threshold
makes a peak of it. -/
theorem Filter.single_sample_window_passes {threshold influence : Float}
    (built : Filter.new ⟨1, threshold, influence⟩ = .ok fresh) (samples : List Float) :
    fresh.answers samples = samples ∧
      fresh.detector.verdicts samples = samples.map fun sample => ⟨.none, sample⟩ := by
  have single : fresh.detector.window.capacity = 1 := (window_of_new built).2
  exact ⟨answers_of_single single samples, Detector.verdicts_of_single single samples⟩

/-- A new filter for one sample that no finite distance would be a peak for. -/
def unbounded : Filter :=
  ⟨⟨Ring.empty Float 1 (by decide), Float.ofBits 0x7ff0000000000000, 0.25⟩, 0.0⟩

theorem Filter.single_sample_window_passes_unbounded :
    Filter.new ⟨1, Float.ofBits 0x7ff0000000000000, 0.25⟩ = .ok unbounded ∧
      let samples := [100.0, 150.0, -0.0, notANumber, Float.ofBits 0x7ff0000000000000, 3.5]
      unbounded.answers samples = samples ∧
        unbounded.detector.verdicts samples = samples.map fun sample => ⟨.none, sample⟩ := by
  have built : Filter.new ⟨1, Float.ofBits 0x7ff0000000000000, 0.25⟩ = .ok unbounded := rfl
  exact ⟨built, single_sample_window_passes built _⟩

end Single

section Lower

/-- A value that comes before the window is full, or does not exceed its mean. -/
def Filter.NotAbove (filter : Filter) (value : Float) : Prop :=
  filter.detector.window.isFull = true → ¬filter.detector.window.mean < value

theorem Filter.NotAbove.judge_cases (lower : filter.NotAbove value) :
    let detector := filter.detector
    detector.judge value = ⟨.none, value⟩ ∨
      detector.judge value = ⟨.below, detector.influence * value +
        (1.0 - detector.influence) * detector.window.newest?.getD value⟩ := by
  intro detector
  rcases detector.judge_cases value with judged | ⟨full, ⟨higher, _⟩ | ⟨_, judged⟩⟩
  · exact Or.inl judged
  · exact absurd higher (lower full)
  · exact Or.inr judged

theorem Filter.NotAbove.answer_eq_adjusted (lower : filter.NotAbove value) :
    (filter.apply value).2 = (filter.detector.judge value).adjusted := by
  apply answer_of_passed
  rcases lower.judge_cases with judged | judged
  · rw [judged]
    exact nofun
  · rw [judged]
    exact nofun

theorem Filter.NotAbove.answer (lower : filter.NotAbove value) :
    (filter.apply value).2 =
      if (filter.detector.add value).2.peak = .below then
        filter.detector.influence * value +
          (1.0 - filter.detector.influence) * filter.detector.window.newest?.getD value
      else value := by
  rw [lower.answer_eq_adjusted]
  change _ = if (filter.detector.judge value).peak = .below then _ else _
  rcases lower.judge_cases with judged | judged
  · rw [judged]
    rfl
  · rw [judged]
    rfl

theorem Filter.weights_of_new (built : Filter.new params = .ok fresh) :
    params.threshold.isNaN = false ∧ ¬params.threshold ≤ 0 ∧
      0 ≤ params.influence ∧ params.influence ≤ 1 := by
  obtain ⟨detector, detected, _⟩ := of_new built
  obtain ⟨_, _, _, accepted⟩ := Detector.of_new detected
  exact accepted

theorem Filter.unnoticed_of_length_le (built : Filter.new params = .ok fresh) {samples : List Float}
    (short : samples.length ≤ params.lag) :
    ∀ verdict ∈ fresh.detector.verdicts samples, verdict.peak = .none := by
  intro verdict judged
  obtain ⟨k, held⟩ := List.getElem?_of_mem judged
  have inside : k < samples.length := by
    rw [← Detector.length_verdicts fresh.detector samples]
    exact (List.getElem?_eq_some_iff.mp held).1
  rw [getElem?_verdicts_of_lt built (by omega), Option.map_eq_some_iff] at held
  obtain ⟨sample, _, rfl⟩ := held
  rfl

/-- The first samples fill the window as they are. -/
theorem Filter.window_of_first (built : Filter.new params = .ok fresh) {samples : List Float}
    (filled : samples.length = params.lag) :
    (fresh.feed samples).detector.window.toList = samples :=
  (view_of_unnoticed built [] filled (unnoticed_of_length_le built filled.le)).1

/-- Any drop among zeros is a peak, at every finite threshold. -/
theorem Detector.Ready.judge_drop (ready : Ready params detector)
    (finite : params.threshold.isFinite = true) (several : 2 ≤ params.lag)
    (word : params.lag < 2 ^ 64) (zeros : ∀ x ∈ detector.window.toList, IsZero x) :
    ¬detector.window.mean < -1.0 ∧
      detector.judge (-1.0) =
        ⟨.below, params.influence * -1.0 +
          (1.0 - params.influence) * detector.window.newest?.getD (-1.0)⟩ := by
  rw [← ready.length_toList] at several word
  have mean := Sample.isZero_mean zeros word
  have deviation :=
    Sample.isZero_deviation (fun x held => (zeros x held).sub mean) several word
  -- the mean and its multiple of deviations are zeros, of a sign that the window decides
  have lower : ¬Sample.mean detector.window.toList < -1.0 := by
    rcases mean.eq with average | average <;> rw [average] <;> decide +kernel
  have far : params.threshold *
      Sample.deviation detector.window.toList (Sample.mean detector.window.toList) <
        (-1.0 - Sample.mean detector.window.toList).abs := by
    have distance : (-1.0 - Sample.mean detector.window.toList).abs = 1.0 := by
      rcases mean.eq with average | average <;> rw [average] <;> decide +kernel
    rw [distance]
    rcases (deviation.finite_mul finite).eq with product | product <;> rw [product] <;>
      decide +kernel
  refine ⟨lower, ?_⟩
  rw [ready.judge]
  dsimp only
  rw [if_pos far, if_neg lower]

/-- A filter that has seen nothing but zeros blends the drop with one of them. -/
theorem Filter.answer_drop (built : Filter.new params = .ok fresh) (several : 2 ≤ params.lag)
    (finite : params.threshold.isFinite = true) :
    let filter := fresh.feed (List.replicate params.lag 0.0)
    filter.NotAbove (-1.0) ∧
      (filter.apply (-1.0)).2 = params.influence * -1.0 + (1.0 - params.influence) * 0.0 := by
  intro filter
  have ready : Detector.Ready params filter.detector := ready_feed built (by simp)
  have window : filter.detector.window.toList = List.replicate params.lag 0.0 :=
    window_of_first built List.length_replicate
  have zeros : ∀ x ∈ filter.detector.window.toList, IsZero x := by
    rw [window]
    intro x given
    rw [List.eq_of_mem_replicate given]
    exact isZero_zero
  have latest : filter.detector.window.newest? = some 0.0 := by
    rw [Ring.newest?_eq_getLast?, window, List.getLast?_replicate, if_neg (by omega)]
  obtain ⟨lower, judged⟩ := ready.judge_drop finite several (lag_lt_word built) zeros
  refine ⟨fun _ => lower, ?_⟩
  rw [apply_eq, judged, latest]
  rfl

/-- The tunings at which no finite value that is not above the mean is answered by another. -/
theorem Filter.alike_answer (built : Filter.new params = .ok fresh)
    (tuning : params.lag = 1 ∨ params.threshold.isInf = true ∨ params.influence = 1.0)
    {history : List Float} (history_finite : ∀ sample ∈ history, sample.isFinite = true)
    (finite : value.isFinite = true) (lower : (fresh.feed history).NotAbove value) :
    Alike ((fresh.feed history).apply value).2 value := by
  rcases tuning with single | infinite | whole
  · left
    apply answer_of_unflagged
    exact Detector.judge_of_single ((capacity_feed built history).trans single) value
  · left
    apply answer_of_unflagged
    apply Detector.judge_of_infinite
    rw [(tuning_feed built history).1]
    obtain ⟨_, positive, _⟩ := weights_of_new built
    exact infinity_of_isInf infinite positive
  · rw [lower.answer_eq_adjusted]
    exact Detector.alike_judge ((tuning_feed built history).2.trans whole)
      (finite_window built whole history_finite) finite

theorem Filter.tuning_of_passes (built : Filter.new params = .ok fresh)
    (passes : ∀ history value, (∀ sample ∈ history, sample.isFinite = true) →
      value.isFinite = true → (fresh.feed history).NotAbove value →
      Alike ((fresh.feed history).apply value).2 value) :
    params.lag = 1 ∨ params.threshold.isInf = true ∨ params.influence = 1.0 := by
  obtain ⟨number, _, nonneg, le⟩ := weights_of_new built
  obtain ⟨nonempty, _⟩ := window_eq_empty built
  by_contra! ⟨single, bounded, partly⟩
  obtain ⟨lower, answer⟩ :=
    answer_drop built (by omega) (isFinite_of_not_isInf number bounded)
  have zeros_finite : ∀ sample ∈ List.replicate params.lag (0.0 : Float),
      sample.isFinite = true := by
    intro sample given
    rw [List.eq_of_mem_replicate given]
    rfl
  have alike := passes _ (-1.0) zeros_finite rfl lower
  rw [answer] at alike
  have nonzero : ¬IsZero (-1.0) := by
    rintro ⟨s, zero⟩
    cases zero
  exact partly (weight_eq_one nonneg le isZero_zero (alike.eq nonzero))

/-- A value that leaves a filter with the same samples in view and the same latest answer is
answered in the same way for ever. -/
theorem Filter.answers_of_unmoved (unmoved : (filter.apply value).1.SameView filter)
    (count : ℕ) :
    filter.answers (List.replicate count value) = List.replicate count (filter.apply value).2 := by
  induction count with
  | zero => rfl
  | succ count ih =>
      rw [List.replicate_succ, answers, unmoved.answers, ih, List.replicate_succ]

/-- A value that does not exceed the mean of a full window is answered by itself, unless it is
a peak: then it is blended with the sample before it, as it enters the window. With a window of
one sample, an infinite threshold or an influence of one every such value passes, up to the sign
of a zero; at every other tuning some such value is answered by another. -/
theorem Filter.lower_values_pass_iff (built : Filter.new params = .ok fresh) :
    (∀ history value, (fresh.feed history).NotAbove value →
      let filter := fresh.feed history
      (filter.apply value).2 =
        if (filter.detector.add value).2.peak = .below then
          params.influence * value +
            (1.0 - params.influence) * filter.detector.window.newest?.getD value
        else value) ∧
      ((∀ history value, (∀ sample ∈ history, sample.isFinite = true) → value.isFinite = true →
          (fresh.feed history).NotAbove value →
          Alike ((fresh.feed history).apply value).2 value) ↔
        params.lag = 1 ∨ params.threshold.isInf = true ∨ params.influence = 1.0) := by
  refine ⟨?_, tuning_of_passes built, ?_⟩
  · intro history value lower filter
    rw [lower.answer, (tuning_feed built history).2]
  · intro tuning history value history_finite finite lower
    exact alike_answer built tuning history_finite finite lower

theorem Filter.lower_values_pass_iff_undamped :
    Filter.new ⟨5, 2.0, 1.0⟩ = .ok (undamped 5 (by decide) 2.0) ∧
      let filter := (undamped 5 (by decide) 2.0).feed (List.replicate 5 500.0)
      (filter.detector.add 10.0).2.peak = .below ∧ (filter.apply 10.0).2 = 10.0 := by
  have built : Filter.new ⟨5, 2.0, 1.0⟩ = .ok (undamped 5 (by decide) 2.0) := rfl
  have history_finite : ∀ sample ∈ List.replicate 5 (500.0 : Float), sample.isFinite = true := by
    decide +kernel
  have passes := (lower_values_pass_iff built).2.mpr (Or.inr (Or.inr rfl))
  refine ⟨built, by decide +kernel, ?_⟩
  apply (passes (List.replicate 5 500.0) 10.0 history_finite rfl ?_).eq
  · rintro ⟨s, zero⟩
    cases zero
  · intro _
    decide +kernel

/-- A new filter that keeps nothing of a peak. -/
def frozen : Filter := ⟨⟨Ring.empty Float 3 (by decide), 2.0, 0.0⟩, 0.0⟩

/-- At an influence of zero a drop from steady traffic is never seen: its samples enter the
window as copies of the steady value. -/
theorem Filter.drop_withheld_for_good :
    let history : List Float := [100.0, 100.0, 100.0]
    let filter := frozen.feed history
    Filter.new ⟨3, 2.0, 0.0⟩ = .ok frozen ∧
      (∀ sample ∈ history, sample.isFinite = true) ∧ (0.0 : Float).isFinite = true ∧
      filter.NotAbove 0.0 ∧ (filter.apply 0.0).2 ≠ 0.0 ∧
      ∀ count, filter.answers (List.replicate count 0.0) = List.replicate count 100.0 := by
  intro history filter
  have lower : filter.NotAbove 0.0 := by
    intro _
    decide +kernel
  have answer : (filter.apply 0.0).2 = 100.0 := by decide +kernel
  have unmoved : (filter.apply 0.0).1.SameView filter :=
    ⟨⟨⟨by decide +kernel, by decide +kernel⟩, by decide +kernel, by decide +kernel⟩,
      by decide +kernel⟩
  refine ⟨rfl, by decide +kernel, rfl, lower, by decide +kernel, ?_⟩
  intro count
  rw [answers_of_unmoved unmoved, answer]

end Lower

end TrafficMeter.Spike
