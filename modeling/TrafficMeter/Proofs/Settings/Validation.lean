import TrafficMeter.Monitor
import TrafficMeter.Proofs.Number.Zeros
import TrafficMeter.Proofs.Report.Chain
import TrafficMeter.Proofs.Spike.Answers

/-! # Which settings are accepted

The interval, the lag, the threshold and the influence are looked at in this order, and the first
fault is reported. The tuning that is derived from an interval has none. A window that no memory
can hold is no fault: the check itself breaks down on it.
-/

namespace TrafficMeter

namespace Spike

variable {params : Params} {error : DetectorError}

namespace Params

/-- A detector can work with the tuning. -/
structure Usable (params : Params) : Prop where
  lag : 0 < params.lag
  threshold : 0 < params.threshold
  influence : 0 ≤ params.influence ∧ params.influence ≤ 1

/-- The first fault of the tuning. -/
inductive Faulty (params : Params) : DetectorError → Prop where
  | lag (none : params.lag = 0) : Faulty params (.lag .zeroCapacity)
  | threshold (lag : 0 < params.lag) (bad : ¬0 < params.threshold) :
      Faulty params (.threshold params.threshold)
  | influence (lag : 0 < params.lag) (threshold : 0 < params.threshold)
      (bad : ¬(0 ≤ params.influence ∧ params.influence ≤ 1)) :
      Faulty params (.influence params.influence)

theorem usable_or_faulty (params : Params) : params.Usable ∨ ∃ error, params.Faulty error := by
  rcases Nat.eq_zero_or_pos params.lag with none | lag
  · exact .inr ⟨_, .lag none⟩
  · by_cases threshold : 0 < params.threshold
    · by_cases influence : 0 ≤ params.influence ∧ params.influence ≤ 1
      · exact .inl ⟨lag, threshold, influence⟩
      · exact .inr ⟨_, .influence lag threshold influence⟩
    · exact .inr ⟨_, .threshold lag threshold⟩

theorem Usable.not_faulty (usable : params.Usable) : ¬params.Faulty error := by
  intro faulty
  cases faulty with
  | lag none => exact Nat.ne_of_gt usable.lag none
  | threshold _ bad => exact bad usable.threshold
  | influence _ _ bad => exact bad usable.influence

theorem forInterval_usable (interval : Span) : (forInterval interval).Usable := by
  refine ⟨?_, ?_, ?_⟩
  · simp only [forInterval]
    omega
  · change (0 : Float) < 2.0
    decide +kernel
  · change (0 : Float) ≤ 1.0 ∧ (1.0 : Float) ≤ 1
    decide +kernel

theorem lag_forInterval_le (interval : Span) : (forInterval interval).lag ≤ 4 := by
  simp only [forInterval]
  omega

end Params

namespace Detector

theorem new_of_large (large : Ring.maxCapacity < params.lag) :
    Detector.new params = .error .crash := by
  have positive : 0 < params.lag := Nat.zero_lt_of_lt large
  simp [Detector.new, Ring.new, positive, Nat.not_le.mpr large, Fault.map, bind, Except.bind]

theorem new_of_fits (positive : 0 < params.lag) (fits : params.lag ≤ Ring.maxCapacity) :
    Detector.new params =
      if 0 < params.threshold then
        if 0 ≤ params.influence ∧ params.influence ≤ 1 then
          .ok ⟨.empty Float params.lag positive, params.threshold, params.influence⟩
        else .error (.error (.influence params.influence))
      else .error (.error (.threshold params.threshold)) := by
  have refused : (params.threshold.isNaN || decide (params.threshold ≤ 0)) =
      !decide (0 < params.threshold) := by
    rw [Bool.eq_iff_iff, Bool.not_eq_true', decide_eq_false_iff_not, Binary64.pos_iff]
    simp only [Bool.or_eq_true, decide_eq_true_eq, not_and_or, Bool.not_eq_false, not_not]
  rw [Detector.new, Ring.new_of_fits positive fits, refused]
  by_cases threshold : 0 < params.threshold <;>
    by_cases influence : 0 ≤ params.influence ∧ params.influence ≤ 1 <;>
      simp [threshold, influence, bind, Except.bind, throw, throwThe, MonadExceptOf.throw, pure,
        Except.pure]

theorem new_of_usable (fits : params.lag ≤ Ring.maxCapacity) (usable : params.Usable) :
    Detector.new params =
      .ok ⟨.empty Float params.lag usable.lag, params.threshold, params.influence⟩ := by
  rw [new_of_fits usable.lag fits, if_pos usable.threshold, if_pos usable.influence]

theorem new_of_faulty (fits : params.lag ≤ Ring.maxCapacity) (faulty : params.Faulty error) :
    Detector.new params = .error (.error error) := by
  cases faulty with
  | lag none =>
      rw [Detector.new, none]
      rfl
  | threshold lag bad => rw [new_of_fits lag fits, if_neg bad]
  | influence lag threshold bad => rw [new_of_fits lag fits, if_pos threshold, if_neg bad]

end Detector

end Spike

namespace Settings

variable {settings : Settings} {error : SettingsError} {seconds : Float} {span : Span}

section Checks

/-- A service can work with the settings. -/
structure Sound (settings : Settings) : Prop where
  interval : 0 < settings.interval.nanos
  filter : settings.filter.Usable

/-- The first fault of the settings. -/
inductive Faulty (settings : Settings) : SettingsError → Prop where
  | interval (none : settings.interval.nanos = 0) : Faulty settings .nonPositiveInterval
  | filter {cause : Spike.DetectorError} (interval : 0 < settings.interval.nanos)
      (faulty : settings.filter.Faulty cause) : Faulty settings (.filter cause)

theorem sound_or_faulty (settings : Settings) :
    settings.Sound ∨ ∃ error, settings.Faulty error := by
  rcases Nat.eq_zero_or_pos settings.interval.nanos with none | interval
  · exact .inr ⟨_, .interval none⟩
  · rcases settings.filter.usable_or_faulty with usable | ⟨_, faulty⟩
    · exact .inl ⟨interval, usable⟩
    · exact .inr ⟨_, .filter interval faulty⟩

theorem Sound.not_faulty (sound : settings.Sound) : ¬settings.Faulty error := by
  intro faulty
  cases faulty with
  | interval none => exact Nat.ne_of_gt sound.interval none
  | filter _ faulty => exact sound.filter.not_faulty faulty

theorem validate_of_interval (interval : 0 < settings.interval.nanos) :
    settings.validate =
      ((Spike.Detector.new settings.filter).widen SettingsError.filter).map fun _ => () := by
  rw [validate, if_neg (Nat.ne_of_gt interval)]
  cases Spike.Detector.new settings.filter <;> rfl

theorem validate_of_large (interval : 0 < settings.interval.nanos)
    (large : Ring.maxCapacity < settings.filter.lag) : settings.validate = .error .crash := by
  rw [validate_of_interval interval, Spike.Detector.new_of_large large]
  rfl

theorem validate_of_sound (fits : settings.filter.lag ≤ Ring.maxCapacity)
    (sound : settings.Sound) : settings.validate = .ok () := by
  rw [validate_of_interval sound.interval, Spike.Detector.new_of_usable fits sound.filter]
  rfl

theorem validate_of_faulty (fits : settings.filter.lag ≤ Ring.maxCapacity)
    (faulty : settings.Faulty error) : settings.validate = .error (.error error) := by
  cases faulty with
  | interval none =>
      rw [validate, if_pos none]
      rfl
  | filter interval faulty =>
      rw [validate_of_interval interval, Spike.Detector.new_of_faulty fits faulty]
      rfl

/-- The three ways in which a check can end. -/
theorem validate_cases (settings : Settings) :
    (settings.Sound ∧ settings.filter.lag ≤ Ring.maxCapacity ∧ settings.validate = .ok ()) ∨
      (∃ error, settings.Faulty error ∧ settings.validate = .error (.error error)) ∨
      (0 < settings.interval.nanos ∧ Ring.maxCapacity < settings.filter.lag ∧
        settings.validate = .error .crash) := by
  by_cases fits : settings.filter.lag ≤ Ring.maxCapacity
  · rcases settings.sound_or_faulty with sound | ⟨error, faulty⟩
    · exact .inl ⟨sound, fits, validate_of_sound fits sound⟩
    · exact .inr (.inl ⟨error, faulty, validate_of_faulty fits faulty⟩)
  · rcases Nat.eq_zero_or_pos settings.interval.nanos with none | interval
    · exact .inr (.inl ⟨_, .interval none, if_pos none⟩)
    · have large := Nat.lt_of_not_le fits
      exact .inr (.inr ⟨interval, large, validate_of_large interval large⟩)

theorem validate_eq_crash_iff :
    settings.validate = .error .crash ↔
      0 < settings.interval.nanos ∧ Ring.maxCapacity < settings.filter.lag := by
  constructor
  · intro breaks
    rcases settings.validate_cases with ⟨_, _, accepted⟩ | ⟨_, _, refused⟩ | ⟨interval, large, _⟩
    · cases breaks.symm.trans accepted
    · cases breaks.symm.trans refused
    · exact ⟨interval, large⟩
  · rintro ⟨interval, large⟩
    exact validate_of_large interval large

end Checks

section Seconds

/-- The span nearest to the seconds, and it is not empty. -/
structure Measures (seconds : Float) (span : Span) : Prop where
  nearest : Span.ofSeconds? seconds = some span
  nonempty : 0 < span.nanos

theorem ofSeconds?_of_isZero (zero : Binary64.IsZero seconds) :
    Span.ofSeconds? seconds = some .zero := by
  rcases zero.eq with rfl | rfl <;> decide +kernel

theorem Measures.positive (measures : Measures seconds span) :
    seconds.isNaN = false ∧ ¬seconds ≤ 0 := by
  have nearest := measures.nearest
  unfold Span.ofSeconds? at nearest
  split at nearest
  · cases nearest
  · rename_i within
    simp only [Bool.or_eq_true, not_or, Bool.not_eq_true, decide_eq_true_eq] at within
    obtain ⟨⟨number, _⟩, not_less⟩ := within
    refine ⟨number, ?_⟩
    intro le
    have empty := ofSeconds?_of_isZero (Binary64.isZero_of_le le not_less)
    obtain rfl := Option.some.inj (empty.symm.trans measures.nearest)
    exact Nat.lt_irrefl 0 measures.nonempty

theorem positiveSeconds_of_measures {nonPositive outOfRange : SettingsError}
    (measures : Measures seconds span) :
    positiveSeconds seconds nonPositive outOfRange = .ok span := by
  obtain ⟨number, positive⟩ := measures.positive
  rw [positiveSeconds, number, measures.nearest]
  simp [positive, Nat.ne_of_gt measures.nonempty]

theorem positiveSeconds_of_unmeasured (nonPositive outOfRange : SettingsError)
    (unmeasured : ¬∃ span, Measures seconds span) :
    ∃ error, positiveSeconds seconds nonPositive outOfRange = .error error := by
  unfold positiveSeconds
  split
  · exact ⟨_, rfl⟩
  · split
    · exact ⟨_, rfl⟩
    · rename_i span nearest
      split
      · exact ⟨_, rfl⟩
      · rename_i nonempty
        exact absurd ⟨span, nearest, Nat.pos_of_ne_zero nonempty⟩ unmeasured

end Seconds

section Choices

variable {choices : Choices} {interval : Span}

/-- The settings that the choices stand for at an interval. -/
def Choices.chosen (choices : Choices) (interval : Span) : Settings :=
  ⟨interval, choices.filter interval, defaultJoinTimeout⟩

/-- The interval and the filter in effect can be used. -/
def Choices.Sound (choices : Choices) : Prop :=
  ∃ interval, Measures choices.interval interval ∧ (choices.filter interval).Usable

/-- No memory is too small for the window that is chosen, if one is. -/
def Choices.Fits (choices : Choices) : Prop := ∀ lag ∈ choices.lag, lag ≤ Ring.maxCapacity

theorem lag_filter_le_iff :
    (choices.filter interval).lag ≤ Ring.maxCapacity ↔ choices.Fits := by
  have derived := Spike.Params.lag_forInterval_le interval
  have large : 4 ≤ Ring.maxCapacity := by decide
  unfold Choices.Fits Choices.filter
  cases choices.lag with
  | none => simp; omega
  | some lag => simp

theorem ofChoices_of_measures (measures : Measures choices.interval interval) :
    ofChoices choices =
      (choices.chosen interval).validate.map fun _ => choices.chosen interval := by
  have measured : intervalOf choices.interval = .ok interval :=
    positiveSeconds_of_measures measures
  have derived : new interval =
      .ok ⟨interval, .forInterval interval, defaultJoinTimeout⟩ := by
    have fits : (Spike.Params.forInterval interval).lag ≤ Ring.maxCapacity := by
      have := Spike.Params.lag_forInterval_le interval
      have large : 4 ≤ Ring.maxCapacity := by decide
      omega
    have valid : validate ⟨interval, .forInterval interval, defaultJoinTimeout⟩ = .ok () :=
      validate_of_sound fits ⟨measures.nonempty, Spike.Params.forInterval_usable interval⟩
    rw [new, valid]
    rfl
  rw [ofChoices, measured]
  simp only [Except.mapError, bind, Except.bind, derived, withFilter]
  change (do (choices.chosen interval).validate; return choices.chosen interval) = _
  cases (choices.chosen interval).validate <;> rfl

theorem ofChoices_of_unmeasured (unmeasured : ¬∃ interval, Measures choices.interval interval) :
    ∃ error, ofChoices choices = .error (.error error) := by
  obtain ⟨error, refused⟩ := positiveSeconds_of_unmeasured .nonPositiveInterval
    (.intervalOutOfRange choices.interval) unmeasured
  refine ⟨error, ?_⟩
  rw [ofChoices, intervalOf, refused]
  rfl

/-- The three ways in which choices can turn out. -/
theorem ofChoices_cases (choices : Choices) :
    (∃ interval, Measures choices.interval interval ∧ (choices.filter interval).Usable ∧
        choices.Fits ∧ ofChoices choices = .ok (choices.chosen interval)) ∨
      (¬choices.Sound ∧ ∃ error, ofChoices choices = .error (.error error)) ∨
      ((∃ interval, Measures choices.interval interval) ∧ ¬choices.Fits ∧
        ofChoices choices = .error .crash) := by
  by_cases measured : ∃ interval, Measures choices.interval interval
  · obtain ⟨interval, measures⟩ := measured
    have same := ofChoices_of_measures measures
    rcases (choices.chosen interval).validate_cases with
      ⟨sound, fits, accepted⟩ | ⟨error, faulty, refused⟩ | ⟨_, large, breaks⟩
    · rw [accepted] at same
      exact .inl ⟨interval, measures, sound.filter, lag_filter_le_iff.mp fits, same⟩
    · rw [refused] at same
      refine .inr (.inl ⟨?_, error, same⟩)
      rintro ⟨other, measuresToo, usable⟩
      obtain rfl := Option.some.inj (measures.nearest.symm.trans measuresToo.nearest)
      have sound : (choices.chosen interval).Sound := ⟨measures.nonempty, usable⟩
      exact sound.not_faulty faulty
    · rw [breaks] at same
      refine .inr (.inr ⟨⟨interval, measures⟩, ?_, same⟩)
      intro fits
      exact Nat.not_lt_of_le (lag_filter_le_iff.mpr fits) large
  · refine .inr (.inl ⟨?_, ofChoices_of_unmeasured measured⟩)
    rintro ⟨interval, measures, _⟩
    exact measured ⟨interval, measures⟩

end Choices

/-- Of all settings and choices only those with a lag that no memory can hold are neither accepted
nor refused: there the check breaks down, unless the interval is refused first. All others end in
the settings in effect or in an error with the exit code of a bad configuration. -/
theorem validation_breaks_down_iff (settings : Settings) (choices : Choices) :
    (settings.validate = .error .crash ↔
        0 < settings.interval.nanos ∧ Ring.maxCapacity < settings.filter.lag) ∧
      (settings.validate ≠ .error .crash →
        settings.Sound ∧ settings.validate = .ok () ∨
          ∃ error, settings.Faulty error ∧ settings.validate = .error (.error error)) ∧
      (ofChoices choices = .error .crash ↔
        (∃ interval, Measures choices.interval interval) ∧
          ∃ lag ∈ choices.lag, Ring.maxCapacity < lag) ∧
      (ofChoices choices ≠ .error .crash →
        (∃ interval, Measures choices.interval interval ∧ (choices.filter interval).Usable ∧
            ofChoices choices = .ok (choices.chosen interval)) ∨
          ¬choices.Sound ∧ ∃ error, ofChoices choices = .error (.error error) ∧
            (Report.of (.settings error)).exitCode = 4) := by
  have large : ¬choices.Fits ↔ ∃ lag ∈ choices.lag, Ring.maxCapacity < lag := by
    simp [Choices.Fits]
  refine ⟨validate_eq_crash_iff, ?_, ?_, ?_⟩
  · intro holds
    rcases settings.validate_cases with ⟨sound, _, accepted⟩ | refused | ⟨_, _, breaks⟩
    · exact .inl ⟨sound, accepted⟩
    · exact .inr refused
    · exact absurd breaks holds
  · rw [← large]
    constructor
    · intro breaks
      rcases ofChoices_cases choices with
        ⟨_, _, _, _, accepted⟩ | ⟨_, _, refused⟩ | ⟨measured, unfit, _⟩
      · cases breaks.symm.trans accepted
      · cases breaks.symm.trans refused
      · exact ⟨measured, unfit⟩
    · rintro ⟨⟨interval, measures⟩, unfit⟩
      have past : Ring.maxCapacity < (choices.chosen interval).filter.lag := by
        rw [← Nat.not_le]
        exact fun fits => unfit (lag_filter_le_iff.mp fits)
      rw [ofChoices_of_measures measures, validate_of_large measures.nonempty past]
      rfl
  · intro holds
    rcases ofChoices_cases choices with
      ⟨interval, measures, usable, _, accepted⟩ | ⟨unsound, error, refused⟩ | ⟨_, _, breaks⟩
    · exact .inl ⟨interval, measures, usable, accepted⟩
    · exact .inr ⟨unsound, error, refused, Report.exitCode_settings error⟩
    · exact absurd breaks holds

/-- A window of 2^60 samples, all else as it is by default. -/
def oversized : Choices := ⟨1.0, some 1152921504606846976, none, none, 5.0⟩

/-- No error is reported for a window that no memory can hold. -/
theorem oversized_breaks_down :
    oversized.Sound ∧ ofChoices oversized = .error .crash ∧
      (oversized.chosen (.ofParts 1 0)).validate = .error .crash := by
  have measures : Measures oversized.interval (.ofParts 1 0) :=
    ⟨by decide +kernel, by decide⟩
  have usable : (oversized.filter (.ofParts 1 0)).Usable :=
    ⟨by decide, by decide +kernel, by decide +kernel⟩
  have past : Ring.maxCapacity < (oversized.chosen (.ofParts 1 0)).filter.lag := by decide
  have breaks := validate_of_large measures.nonempty past
  refine ⟨⟨_, measures, usable⟩, ?_, breaks⟩
  rw [ofChoices_of_measures measures, breaks]
  rfl

end Settings

end TrafficMeter
