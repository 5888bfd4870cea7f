import TrafficMeter.Proofs.Spike.Steady

/-! # A sustained rate

With an influence of one, peaks enter the window as they are, and a value that lasts fills
it. It is answered from then on, unless it stands out from copies of itself: their rounded
mean may lie below it by more than a small threshold allows for, and then the answers never
change again. From two deviations on that does not happen to any rate worth showing.
-/

namespace TrafficMeter.Spike

open Binary64

variable {params : Params} {detector : Detector} {value : Float}

section Alike

variable {x y sample latest : Float}

/-- Equal up to the sign of a zero. -/
def Alike (x y : Float) : Prop := x = y ∨ IsZero x ∧ IsZero y

theorem Alike.isFinite (alike : Alike x y) (finite : y.isFinite = true) : x.isFinite = true := by
  rcases alike with rfl | ⟨zero, _⟩
  · exact finite
  · exact zero.isFinite

theorem Alike.eq (alike : Alike x y) (nonzero : ¬IsZero y) : x = y := by
  rcases alike with equal | ⟨_, zero⟩
  · exact equal
  · exact absurd zero nonzero

theorem Alike.isZero (alike : Alike x y) (zero : IsZero y) : IsZero x := by
  rcases alike with rfl | ⟨zero', _⟩
  · exact zero
  · exact zero'

/-- A peak at an influence of one: the product with the sample is exact, and what is left of
the latest sample is a zero. -/
theorem alike_blend (finite : sample.isFinite = true) (latest_finite : latest.isFinite = true) :
    Alike (1.0 * sample + (1.0 - 1.0) * latest) sample := by
  have no_weight : IsZero (1.0 - 1.0) := ⟨.positive, rfl⟩
  have nothing := no_weight.mul_finite latest_finite
  rw [one_mul_of_finite finite]
  by_cases zero : IsZero sample
  · exact Or.inr ⟨zero.add nothing, zero⟩
  · exact Or.inl (add_isZero finite zero nothing)

end Alike

namespace Detector

theorem mem_window_add {sample x : Float}
    (held : x ∈ (detector.add sample).1.window.toList) :
    x ∈ detector.window.toList ∨ x = (detector.judge sample).adjusted := by
  change x ∈ (detector.window.push (detector.judge sample).adjusted).toList at held
  rcases Nat.lt_or_eq_of_le detector.window.count_le_capacity with room | full
  · rw [Ring.toList_push_of_room _ room] at held
    simpa using held
  · rw [Ring.toList_push_of_full _ full, List.mem_append, List.mem_singleton] at held
    exact held.imp_left List.mem_of_mem_tail

theorem alike_judge (whole : detector.influence = 1.0)
    (window : ∀ x ∈ detector.window.toList, x.isFinite = true) {sample : Float}
    (finite : sample.isFinite = true) : Alike (detector.judge sample).adjusted sample := by
  have latest : (detector.window.newest?.getD sample).isFinite = true := by
    rw [Ring.newest?_eq_getLast?]
    cases held : detector.window.toList.getLast? with
    | none => exact finite
    | some x => exact window x (List.mem_of_getLast? held)
  have blend := alike_blend finite latest
  rcases detector.judge_cases sample with judged | ⟨_, ⟨_, judged⟩ | ⟨_, judged⟩⟩
  · exact Or.inl (by rw [judged])
  · rwa [judged, whole]
  · rwa [judged, whole]

/-- What enters the window is a sample, up to the sign of a zero. -/
theorem alike_verdicts {samples : List Float} (whole : detector.influence = 1.0)
    (window : ∀ x ∈ detector.window.toList, x.isFinite = true)
    (finite : ∀ x ∈ samples, x.isFinite = true) {verdict : Verdict}
    (judged : verdict ∈ detector.verdicts samples) :
    ∃ sample ∈ samples, Alike verdict.adjusted sample := by
  induction samples generalizing detector with
  | nil => cases judged
  | cons sample samples ih =>
      have sample_finite := finite sample List.mem_cons_self
      have first := alike_judge whole window sample_finite
      rw [verdicts, List.mem_cons] at judged
      rcases judged with rfl | later
      · exact ⟨sample, List.mem_cons_self, first⟩
      · have window_after : ∀ x ∈ (detector.add sample).1.window.toList, x.isFinite = true := by
          intro x held
          rcases mem_window_add held with before | rfl
          · exact window x before
          · exact first.isFinite sample_finite
        have rest : ∀ x ∈ samples, x.isFinite = true :=
          fun x given => finite x (List.mem_cons_of_mem _ given)
        obtain ⟨source, given, alike⟩ := @ih (detector.add sample).1 whole window_after rest later
        exact ⟨source, List.mem_cons_of_mem _ given, alike⟩

end Detector

/-- A value lies above the mean of a window of its copies, by more than the deviations there
that make a peak. -/
def StandsOut (params : Params) (value : Float) : Prop :=
  let copies := List.replicate params.lag value
  let mean := Sample.mean copies
  mean < value ∧ params.threshold * Sample.deviation copies mean < (value - mean).abs

instance : Decidable (StandsOut params value) := inferInstanceAs (Decidable (_ ∧ _))

section StandingOut

theorem not_standsOut_of_isZero (word : params.lag < 2 ^ 64) (zero : IsZero value) :
    ¬StandsOut params value := by
  intro stands_out
  have mean : IsZero (Sample.mean (List.replicate params.lag value)) := by
    apply Sample.isZero_mean
    · intro x given
      rwa [List.eq_of_mem_replicate given]
    · rwa [List.length_replicate]
  exact not_lt_isZero (Or.inl mean) zero stands_out.1

/-- From this bound on, the squares of distances to other numbers do not vanish. -/
theorem parts_of_bound (finite : value.isFinite = true) (enough : 1e-145 ≤ value) :
    ∃ (m : ℕ) (e : ℤ) (positive : 0 < m),
      parts value = .finite .positive m e positive ∧ -534 ≤ e := by
  have bits : (1e-145 : Float) = Float.ofBits 0x21d3faac3e3fa1f3 := by decide +kernel
  have bound : parts (Float.ofBits 0x21d3faac3e3fa1f3) =
      .finite .positive 0x13faac3e3fa1f3 (-534) (by norm_num) := rfl
  rw [bits] at enough
  obtain ⟨m, e, positive, held⟩ :=
    finite_of_reaches (by positivity) (reaches_of_le bound enough) finite
  exact ⟨m, e, positive, held, exponent_le_of_le bound held enough⟩

/-- From two deviations on a value never stands out: its copies deviate from their mean by at
least half their distance to it, however all of this is rounded. -/
theorem not_standsOut_of_two (strict : 2.0 ≤ params.threshold) (few : params.lag ≤ 2 ^ 53)
    (finite : value.isFinite = true) (enough : 1e-145 ≤ value) : ¬StandsOut params value := by
  intro ⟨below, far⟩
  generalize around : Sample.mean (List.replicate params.lag value) = mean at below far
  obtain ⟨m, e, positive, held, exponent⟩ := parts_of_bound finite enough
  have distance := reaches_sub_of_lt below held
  rw [abs_of_reaches (gap_pos e) distance] at far
  by_cases several : 2 ≤ params.lag
  · have least : Reaches (2 ^ (-535 : ℤ)) (parts (value - mean)) := by
      apply distance.mono
      exact zpow_le_zpow_right₀ one_le_two (by omega)
    have factor : Reaches 2 (parts params.threshold) := by
      have two : parts 2.0 = .finite .positive (2 ^ 52) (-51) (by norm_num) := rfl
      exact (reaches_of_le two strict).mono (by norm_num)
    refine not_lt_of_doubled least ?_ far
    intro k lower reached
    have deviation : Reaches (2 ^ k)
        (parts (Sample.deviation (List.replicate params.lag value) mean)) := by
      apply Sample.reaches_deviation (by omega)
      · simpa using several
      · simpa using few
      · intro copy given
        rwa [List.eq_of_mem_replicate given]
    apply reaches_mul factor deviation two_pos (zpow_pos two_pos k) (representable_pow (by omega))
    rw [zpow_add_one₀ two_ne_zero, mul_comm]
  · have nan : (Sample.deviation (List.replicate params.lag value) mean).isNaN = true := by
      apply Sample.isNaN_deviation_of_short
      simpa using several
    exact not_lt_of_isNaN (isNaN_mul nan) far

end StandingOut

/-- A full window that holds nothing but one finite value, up to the sign of a zero, and
takes peaks as they are. -/
structure Detector.Settled (params : Params) (value : Float) (detector : Detector) : Prop
    extends Detector.Ready params detector where
  word : params.lag < 2 ^ 64
  whole : params.influence = 1.0
  finite : value.isFinite = true
  alike : ∀ x ∈ detector.window.toList, Alike x value

namespace Detector.Settled

variable (settled : Settled params value detector)
include settled

theorem window (nonzero : ¬IsZero value) :
    detector.window.toList = List.replicate params.lag value := by
  rw [List.eq_replicate_iff]
  refine ⟨settled.length_toList, ?_⟩
  intro x held
  exact (settled.alike x held).eq nonzero

/-- A zero among zeros is no peak: nothing is below a product with their deviation. -/
theorem judge_of_isZero (zero : IsZero value) : detector.judge value = ⟨.none, value⟩ := by
  have zeros : ∀ x ∈ detector.window.toList, IsZero x := by
    intro x held
    exact (settled.alike x held).isZero zero
  have word : detector.window.toList.length < 2 ^ 64 := by
    rw [settled.length_toList]
    exact settled.word
  have mean := Sample.isZero_mean zeros word
  have deviation := Sample.isZero_or_isNaN_deviation zeros mean word
  have near := not_lt_isZero (isZero_or_isNaN_mul (x := params.threshold) deviation)
    (zero.sub mean).abs
  rw [settled.judge]
  exact if_neg near

theorem adjusted_judge : (detector.judge value).adjusted = value := by
  by_cases zero : IsZero value
  · rw [settled.judge_of_isZero zero]
  · apply Alike.eq _ zero
    apply alike_judge (settled.influence.trans settled.whole) _ settled.finite
    intro x held
    exact (settled.alike x held).isFinite settled.finite

theorem above_iff : (detector.judge value).peak = .above ↔ StandsOut params value := by
  by_cases zero : IsZero value
  · rw [settled.judge_of_isZero zero]
    simpa using not_standsOut_of_isZero settled.word zero
  · rw [settled.judge, settled.window zero]
    unfold StandsOut
    dsimp only
    split
    · rename_i far
      split <;> simp [*]
    · rename_i near
      simp [near]

theorem add : Settled params value (detector.add value).1 := by
  refine ⟨settled.toReady.add value, settled.word, settled.whole, settled.finite, ?_⟩
  intro x held
  rcases mem_window_add held with before | rfl
  · exact settled.alike x before
  · exact Or.inl settled.adjusted_judge

end Detector.Settled

namespace Filter

variable {fresh filter : Filter}

theorem tuning_feed (built : Filter.new params = .ok fresh) (samples : List Float) :
    (fresh.feed samples).detector.threshold = params.threshold ∧
      (fresh.feed samples).detector.influence = params.influence := by
  obtain ⟨detector, detected, rfl⟩ := of_new built
  obtain ⟨positive, rfl, _⟩ := Detector.of_new detected
  rw [detector_feed]
  exact ⟨rfl, rfl⟩

/-- A new filter never takes anything but finite samples into its window, if it is fed such. -/
theorem finite_window (built : Filter.new params = .ok fresh) (whole : params.influence = 1.0)
    {samples : List Float} (finite : ∀ x ∈ samples, x.isFinite = true) :
    ∀ x ∈ (fresh.feed samples).detector.window.toList, x.isFinite = true := by
  intro x held
  obtain ⟨positive, window⟩ := window_eq_empty built
  have fresh_whole : fresh.detector.influence = 1.0 := (tuning_feed built []).2.trans whole
  have nothing : ∀ y ∈ fresh.detector.window.toList, y.isFinite = true := by
    rw [window]
    intro y present
    cases present
  rw [detector_feed, window, Ring.toList_pushAll] at held
  obtain ⟨verdict, judged, rfl⟩ := List.mem_map.mp (List.mem_of_mem_drop held)
  obtain ⟨sample, given, alike⟩ := Detector.alike_verdicts fresh_whole nothing finite judged
  exact alike.isFinite (finite sample given)

/-- As many copies of a value as the window takes leave nothing else in it. -/
theorem settled_feed (built : Filter.new params = .ok fresh) (whole : params.influence = 1.0)
    {history : List Float} (history_finite : ∀ x ∈ history, x.isFinite = true)
    (finite : value.isFinite = true) :
    Detector.Settled params value
      (fresh.feed (history ++ List.replicate params.lag value)).detector := by
  refine ⟨ready_feed built (by simp), lag_lt_word built, whole, finite, ?_⟩
  intro x held
  rw [window_feed_append built history List.length_replicate] at held
  obtain ⟨verdict, judged, rfl⟩ := List.mem_map.mp held
  have copies_finite : ∀ y ∈ List.replicate params.lag value, y.isFinite = true := by
    intro y given
    rwa [List.eq_of_mem_replicate given]
  obtain ⟨sample, given, alike⟩ := Detector.alike_verdicts
    ((tuning_feed built history).2.trans whole) (finite_window built whole history_finite)
    copies_finite judged
  rwa [List.eq_of_mem_replicate given] at alike

theorem answer_of_settled (settled : Detector.Settled params value filter.detector) :
    (filter.apply value).2 = if StandsOut params value then filter.lastAccepted else value := by
  rw [apply_eq]
  simp only [settled.above_iff, settled.adjusted_judge]

/-- Nothing changes any more in a filter whose window is settled: all answers are the same. -/
theorem answers_of_settled (settled : Detector.Settled params value filter.detector) (count : ℕ) :
    filter.answers (List.replicate count value) =
      List.replicate count (if StandsOut params value then filter.lastAccepted else value) := by
  induction count generalizing filter with
  | zero => rfl
  | succ count ih =>
      have first := answer_of_settled settled
      have next : Detector.Settled params value (filter.apply value).1.detector := by
        rw [detector_apply]
        exact settled.add
      rw [List.replicate_succ, answers, ih next, lastAccepted_apply, first, List.replicate_succ]
      split <;> rfl

/-- Once a value has filled the window, every further answer is the value, unless it stands
out from its own copies: then all of them are the answer before. It does not stand out from
two deviations on, if it is a zero or not too small. -/
theorem sustained_answered_unless_standing_out (built : Filter.new params = .ok fresh)
    (whole : params.influence = 1.0) {history : List Float}
    (history_finite : ∀ sample ∈ history, sample.isFinite = true)
    (finite : value.isFinite = true) :
    let filter := fresh.feed (history ++ List.replicate params.lag value)
    (∀ count, filter.answers (List.replicate count value) =
        List.replicate count (if StandsOut params value then filter.lastAccepted else value)) ∧
      (2.0 ≤ params.threshold → params.lag ≤ 2 ^ 53 → IsZero value ∨ 1e-145 ≤ value →
        ¬StandsOut params value) := by
  intro filter
  have settled : Detector.Settled params value filter.detector :=
    settled_feed built whole history_finite finite
  refine ⟨fun count => answers_of_settled settled count, ?_⟩
  intro strict few enough
  rcases enough with zero | enough
  · exact not_standsOut_of_isZero settled.word zero
  · exact not_standsOut_of_two strict few finite enough

/-- A new filter with an influence of one. -/
def undamped (lag : ℕ) (positive : 0 < lag) (threshold : Float) : Filter :=
  ⟨⟨Ring.empty Float lag positive, threshold, 1.0⟩, 0.0⟩

theorem sustained_answered_after_drop :
    Filter.new ⟨5, 2.0, 1.0⟩ = .ok (undamped 5 (by decide) 2.0) ∧
      let filter := (undamped 5 (by decide) 2.0).feed
        ([900.0, 20.0, 7.5] ++ List.replicate 5 1.4)
      ∀ count, filter.answers (List.replicate count 1.4) = List.replicate count 1.4 := by
  have built : Filter.new ⟨5, 2.0, 1.0⟩ = .ok (undamped 5 (by decide) 2.0) := rfl
  have history_finite : ∀ sample ∈ ([900.0, 20.0, 7.5] : List Float), sample.isFinite = true := by
    decide +kernel
  have finite : (1.4 : Float).isFinite = true := rfl
  obtain ⟨answered, steady⟩ :=
    sustained_answered_unless_standing_out built rfl history_finite finite
  have kept := steady (by decide +kernel) (by decide) (Or.inr (by decide +kernel))
  refine ⟨built, ?_⟩
  intro filter count
  rw [answered count, if_neg kept]

/-- At half a deviation 1.4 stands out: the mean of three of it is rounded below it. After
three zeros it is never answered. -/
theorem sustained_suppressed_for_good :
    let history : List Float := [0.0, 0.0, 0.0]
    let filter := (undamped 3 (by decide) 0.5).feed (history ++ List.replicate 3 1.4)
    Filter.new ⟨3, 0.5, 1.0⟩ = .ok (undamped 3 (by decide) 0.5) ∧
      (∀ sample ∈ history, sample.isFinite = true ∧ 0 ≤ sample) ∧
      (1.4 : Float).isFinite = true ∧ (0 : Float) ≤ 1.4 ∧
      (filter.apply 1.4).2 ≠ 1.4 ∧
      ∀ count, filter.answers (List.replicate count 1.4) = List.replicate count 0.0 := by
  intro history filter
  have built : Filter.new ⟨3, 0.5, 1.0⟩ = .ok (undamped 3 (by decide) 0.5) := rfl
  have usual : ∀ sample ∈ history, sample.isFinite = true ∧ 0 ≤ sample := by decide +kernel
  have settled : Detector.Settled ⟨3, 0.5, 1.0⟩ 1.4 filter.detector :=
    settled_feed built rfl (fun sample given => (usual sample given).1) rfl
  have out : StandsOut ⟨3, 0.5, 1.0⟩ 1.4 := by decide +kernel
  have last : filter.lastAccepted = 0.0 := by decide +kernel
  refine ⟨built, usual, rfl, by decide +kernel, by decide +kernel, ?_⟩
  intro count
  rw [answers_of_settled settled count, if_pos out, last]

end Filter

end TrafficMeter.Spike
