import TrafficMeter.Proofs.Number.Exact
import TrafficMeter.Proofs.Settings.Validation

/-! # Seconds as spans

A number of seconds is too short, too long, or measured by the nearest span. The three zones lie on
the line of numbers in this order: what is no number, is not positive or is at most half a
nanosecond is too short, and what is 2^64 seconds or more is too long.
-/

namespace TrafficMeter

namespace Span

open Binary64

variable {seconds later : Float} {m m' : ℕ} {e e' : ℤ} {positive : 0 < m} {positive' : 0 < m'}

/-- The seconds in nanoseconds, rounded to the nearest whole number. -/
def nearestNanos (seconds : Float) : ℕ :=
  let value := (magnitude seconds).times nanosPerSecond
  roundQuotient value.1 value.2

theorem nearestNanos_near (given : parts seconds = .finite .positive m e positive) :
    (nearestNanos seconds : ℚ) - 1 / 2 ≤ exact seconds * nanosPerSecond ∧
      exact seconds * nanosPerSecond ≤ nearestNanos seconds + 1 / 2 := by
  obtain ⟨den_pos, value⟩ := times_value m e nanosPerSecond
  rw [nearestNanos, magnitude_of_finite given, exact_of_positive given, ← value]
  exact roundQuotient_near den_pos

theorem nearestNanos_mono (given : parts seconds = .finite .positive m e positive)
    (given' : parts later = .finite .positive m' e' positive') (le : seconds ≤ later) :
    nearestNanos seconds ≤ nearestNanos later := by
  obtain ⟨den_pos, value⟩ := times_value m e nanosPerSecond
  obtain ⟨den_pos', value'⟩ := times_value m' e' nanosPerSecond
  have ordered := exact_le_of_le given given' le
  rw [exact_of_positive given, exact_of_positive given'] at ordered
  rw [nearestNanos, nearestNanos, magnitude_of_finite given, magnitude_of_finite given']
  apply roundQuotient_mono den_pos den_pos'
  rw [value, value']
  exact mul_le_mul_of_nonneg_right ordered (Nat.cast_nonneg _)

theorem nearestNanos_eq_zero_iff (given : parts seconds = .finite .positive m e positive) :
    nearestNanos seconds = 0 ↔ exact seconds * nanosPerSecond ≤ 1 / 2 := by
  obtain ⟨lower, upper⟩ := nearestNanos_near given
  constructor
  · intro none
    rw [none] at upper
    simpa using upper
  · intro small
    by_contra some_nanos
    have one_le : (1 : ℚ) ≤ nearestNanos seconds := by
      exact_mod_cast Nat.pos_of_ne_zero some_nanos
    -- the seconds are half-way between no nanosecond and one, and one is not even
    have rounded : nearestNanos seconds = 1 := by
      have rounded : (nearestNanos seconds : ℚ) = 1 := by linarith
      exact_mod_cast rounded
    obtain ⟨den_pos, value⟩ := times_value m e nanosPerSecond
    have tie : (((magnitude seconds).times nanosPerSecond).1 : ℚ) /
        ((magnitude seconds).times nanosPerSecond).2 = (0 : ℕ) + 1 / 2 := by
      rw [magnitude_of_finite given, value, ← exact_of_positive given]
      push_cast
      linarith
    rw [← magnitude_of_finite given] at den_pos
    have even : nearestNanos seconds % 2 = 0 := even_roundQuotient den_pos tie
    omega

/-- Below 2^64 a number is at most 2^64 - 1. -/
theorem exact_add_one_le (given : parts seconds = .finite .positive m e positive)
    (small : exact seconds < 2 ^ 64) : exact seconds + 1 ≤ 2 ^ 64 := by
  have canonical := canonical_parts seconds
  rw [given] at canonical
  have short : (m : ℚ) < 2 ^ 53 := by exact_mod_cast canonical.1
  rw [exact_of_positive given] at small ⊢
  rcases le_or_gt 0 e with whole | fraction
  · obtain ⟨up, rfl⟩ := Int.eq_ofNat_of_zero_le whole
    rw [zpow_natCast] at small ⊢
    have less : m * 2 ^ up < 2 ^ 64 := by exact_mod_cast small
    exact_mod_cast Nat.succ_le_of_lt less
  · have unit_le : (2 : ℚ) ^ e ≤ 1 := zpow_le_one_of_nonpos₀ one_le_two fraction.le
    have value_le : (m : ℚ) * 2 ^ e ≤ m := mul_le_of_le_one_right (Nat.cast_nonneg m) unit_le
    linarith

theorem nearestNanos_lt_iff (given : parts seconds = .finite .positive m e positive) :
    nearestNanos seconds < 2 ^ 64 * nanosPerSecond ↔ exact seconds < 2 ^ 64 := by
  obtain ⟨lower, upper⟩ := nearestNanos_near given
  have second_pos : (0 : ℚ) < nanosPerSecond := by norm_num [nanosPerSecond]
  constructor
  · intro less
    have less : (nearestNanos seconds : ℚ) + 1 ≤ 2 ^ 64 * nanosPerSecond := by exact_mod_cast less
    have product_lt : exact seconds * nanosPerSecond < 2 ^ 64 * nanosPerSecond := by linarith
    exact lt_of_mul_lt_mul_right product_lt second_pos.le
  · intro small
    have bound := exact_add_one_le given small
    have product_le : (exact seconds + 1) * nanosPerSecond ≤ 2 ^ 64 * nanosPerSecond :=
      mul_le_mul_of_nonneg_right bound second_pos.le
    have half_lt : (1 / 2 : ℚ) < nanosPerSecond := by norm_num [nanosPerSecond]
    have less : (nearestNanos seconds : ℚ) < 2 ^ 64 * nanosPerSecond := by linarith
    exact_mod_cast less

theorem ofSeconds?_of_finite (given : parts seconds = .finite .positive m e positive) :
    ofSeconds? seconds = ofNanos? (nearestNanos seconds) := by
  have zero : parts 0 = .zero .positive := rfl
  have number : seconds.isNaN = false := by
    rw [← Bool.not_eq_true, isNaN_iff_parts, given]
    simp
  have finite : seconds.isInf = false := by
    change (parts seconds).isInf = false
    rw [given]
    rfl
  have not_less : ¬seconds < 0 := by
    rw [lt_iff, given, zero]
    simp [Float.Model.UnpackedFloat.compare]
  rw [ofSeconds?, number, finite]
  simp only [not_less, nearestNanos, Bool.or_self, decide_false, Bool.false_eq_true, if_false]

end Span

namespace Settings

open Binary64

variable {seconds later : Float} {m : ℕ} {e : ℤ} {positive : 0 < m}
  {nonPositive outOfRange : SettingsError}

/-- No positive number, or one that rounds to no nanosecond. -/
def TooShort (seconds : Float) : Prop :=
  seconds.isNaN = true ∨ seconds ≤ 0 ∨
    seconds.isFinite = true ∧ exact seconds * nanosPerSecond ≤ 1 / 2

/-- Past the longest span. -/
def TooLong (seconds : Float) : Prop :=
  parts seconds = .infinity .positive ∨ seconds.isFinite = true ∧ 2 ^ 64 ≤ exact seconds

/-- The zone of a number of seconds, and what comes of the number there. -/
inductive Zone (seconds : Float) (nonPositive outOfRange : SettingsError) :
    Except SettingsError Span → Prop where
  | short (short : TooShort seconds) (not_long : ¬TooLong seconds) :
      Zone seconds nonPositive outOfRange (.error nonPositive)
  | measured {span : Span} (not_short : ¬TooShort seconds) (not_long : ¬TooLong seconds)
      (some_nanos : 0 < span.nanos) (nearest : span.nanos = Span.nearestNanos seconds)
      (close : |(span.nanos : ℚ) - exact seconds * nanosPerSecond| ≤ 1 / 2) :
      Zone seconds nonPositive outOfRange (.ok span)
  | long (not_short : ¬TooShort seconds) (long : TooLong seconds) :
      Zone seconds nonPositive outOfRange (.error outOfRange)

section Zones

/-- The test that comes before the seconds are rounded. -/
theorem refused_iff : (seconds.isNaN || decide (seconds ≤ 0)) = true ↔ ¬0 < seconds := by
  rw [pos_iff, not_and_or, not_not, Bool.not_eq_false, Bool.or_eq_true, decide_eq_true_eq]

theorem tooShort_of_not_pos (not_pos : ¬0 < seconds) : TooShort seconds := by
  rw [pos_iff, not_and_or, not_not, Bool.not_eq_false] at not_pos
  exact not_pos.imp_right .inl

theorem tooShort_iff_of_pos (pos : 0 < seconds) :
    TooShort seconds ↔ seconds.isFinite = true ∧ exact seconds * nanosPerSecond ≤ 1 / 2 := by
  obtain ⟨number, not_le⟩ := pos_iff.mp pos
  rw [TooShort, number, or_iff_right Bool.false_ne_true, or_iff_right not_le]

theorem pos_of_tooLong (long : TooLong seconds) : 0 < seconds := by
  rcases long with infinite | ⟨_, large⟩
  · exact pos_of_infinity infinite
  · have value_pos : 0 < exact seconds := by linarith
    exact pos_of_exact_pos value_pos

theorem tooShort_iff_of_finite (given : parts seconds = .finite .positive m e positive) :
    TooShort seconds ↔ Span.nearestNanos seconds = 0 := by
  rw [tooShort_iff_of_pos (pos_of_finite given), isFinite_iff, given,
    Span.nearestNanos_eq_zero_iff given]
  exact and_iff_right rfl

theorem tooLong_iff_of_finite (given : parts seconds = .finite .positive m e positive) :
    TooLong seconds ↔ 2 ^ 64 * nanosPerSecond ≤ Span.nearestNanos seconds := by
  rw [← not_lt, Span.nearestNanos_lt_iff given, not_lt, TooLong, isFinite_iff, given,
    or_iff_right (by simp)]
  exact and_iff_right rfl

theorem zone_of_not_pos (not_pos : ¬0 < seconds) :
    Zone seconds nonPositive outOfRange (positiveSeconds seconds nonPositive outOfRange) := by
  rw [positiveSeconds, if_pos (refused_iff.mpr not_pos)]
  exact .short (tooShort_of_not_pos not_pos) fun long => not_pos (pos_of_tooLong long)

theorem zone_of_infinity (infinite : parts seconds = .infinity .positive) :
    Zone seconds nonPositive outOfRange (positiveSeconds seconds nonPositive outOfRange) := by
  have pos := pos_of_infinity infinite
  have unmeasured : Span.ofSeconds? seconds = none := by
    have isInf : seconds.isInf = true := by
      change (parts seconds).isInf = true
      rw [infinite]
      rfl
    simp [Span.ofSeconds?, isInf]
  rw [positiveSeconds, if_neg (not_not.mpr pos ∘ refused_iff.mp), unmeasured]
  refine .long ?_ (.inl infinite)
  rw [tooShort_iff_of_pos pos, isFinite_iff, infinite]
  exact fun short => Bool.false_ne_true short.1

theorem zone_of_finite (given : parts seconds = .finite .positive m e positive) :
    Zone seconds nonPositive outOfRange (positiveSeconds seconds nonPositive outOfRange) := by
  have short_iff := tooShort_iff_of_finite given
  have long_iff := tooLong_iff_of_finite given
  have near := Span.nearestNanos_near given
  have bound : 2 ^ 64 * nanosPerSecond = 18446744073709551616 * 1000000000 := rfl
  have pos := pos_of_finite given
  rw [bound] at long_iff
  rw [positiveSeconds, if_neg (not_not.mpr pos ∘ refused_iff.mp), Span.ofSeconds?_of_finite given]
  by_cases fits : Span.nearestNanos seconds < 18446744073709551616 * 1000000000
  · have not_long := long_iff.not.mpr (Nat.not_le.mpr fits)
    rw [Span.ofNanos?, dif_pos fits]
    dsimp only
    split
    · rename_i none
      exact .short (short_iff.mpr none) not_long
    · rename_i some_nanos
      have nonempty := Nat.pos_of_ne_zero some_nanos
      refine .measured (short_iff.not.mpr some_nanos) not_long nonempty rfl ?_
      rw [abs_le]
      constructor <;> linarith
  · rw [Span.ofNanos?, dif_neg fits]
    refine .long ?_ (long_iff.mpr (Nat.le_of_not_lt fits))
    rw [short_iff]
    omega

/-- Every number of seconds lies in exactly one zone. -/
theorem zone_positiveSeconds (seconds : Float) (nonPositive outOfRange : SettingsError) :
    Zone seconds nonPositive outOfRange (positiveSeconds seconds nonPositive outOfRange) := by
  by_cases pos : 0 < seconds
  · rcases positive_cases pos with infinite | ⟨_, _, _, given⟩
    · exact zone_of_infinity infinite
    · exact zone_of_finite given
  · exact zone_of_not_pos pos

variable {outcome : Except SettingsError Span}

theorem Zone.tooShort_iff (zone : Zone seconds nonPositive outOfRange outcome)
    (distinct : nonPositive ≠ outOfRange) :
    outcome = .error nonPositive ↔ TooShort seconds := by
  cases zone with
  | short short _ => exact iff_of_true rfl short
  | measured not_short _ _ _ _ => exact iff_of_false nofun not_short
  | long not_short _ =>
      exact iff_of_false (fun same => distinct (Except.error.inj same).symm) not_short

theorem Zone.tooLong_iff (zone : Zone seconds nonPositive outOfRange outcome)
    (distinct : nonPositive ≠ outOfRange) :
    outcome = .error outOfRange ↔ TooLong seconds := by
  cases zone with
  | short _ not_long => exact iff_of_false (fun same => distinct (Except.error.inj same)) not_long
  | measured _ not_long _ _ _ => exact iff_of_false nofun not_long
  | long _ long => exact iff_of_true rfl long

theorem Zone.measured_of_not (zone : Zone seconds nonPositive outOfRange outcome)
    (not_short : ¬TooShort seconds) (not_long : ¬TooLong seconds) :
    ∃ span, outcome = .ok span ∧ 0 < span.nanos ∧ span.nanos = Span.nearestNanos seconds ∧
      |(span.nanos : ℚ) - exact seconds * nanosPerSecond| ≤ 1 / 2 := by
  cases zone with
  | short short _ => exact absurd short not_short
  | measured _ _ some_nanos nearest close => exact ⟨_, rfl, some_nanos, nearest, close⟩
  | long _ long => exact absurd long not_long

theorem Zone.of_ok {span : Span} (zone : Zone seconds nonPositive outOfRange (.ok span)) :
    ¬TooShort seconds ∧ ¬TooLong seconds ∧ span.nanos = Span.nearestNanos seconds := by
  cases zone with
  | measured not_short not_long _ nearest _ => exact ⟨not_short, not_long, nearest⟩

end Zones

section Order

theorem TooLong.mono (long : TooLong seconds) (le : seconds ≤ later) : TooLong later := by
  rcases positive_cases (pos_of_tooLong long) with infinite | ⟨m, e, positive, given⟩
  · exact .inl (infinity_of_le infinite le)
  · rcases cases_of_le given le with infinite | ⟨m', e', positive', given'⟩
    · exact .inl infinite
    · rw [tooLong_iff_of_finite given] at long
      rw [tooLong_iff_of_finite given']
      exact long.trans (Span.nearestNanos_mono given given' le)

/-- After seconds that are measured come only others that are, and those that are too long. -/
theorem not_tooShort_of_le (not_short : ¬TooShort seconds) (not_long : ¬TooLong seconds)
    (le : seconds ≤ later) :
    TooLong later ∨
      ¬TooShort later ∧ Span.nearestNanos seconds ≤ Span.nearestNanos later := by
  have pos : 0 < seconds := not_imp_comm.mp tooShort_of_not_pos not_short
  rcases positive_cases pos with infinite | ⟨m, e, positive, given⟩
  · exact absurd (.inl infinite) not_long
  · rcases cases_of_le given le with infinite | ⟨m', e', positive', given'⟩
    · exact .inl (.inl infinite)
    · have ordered := Span.nearestNanos_mono given given' le
      rw [tooShort_iff_of_finite given] at not_short
      rw [tooShort_iff_of_finite given']
      exact .inr ⟨by omega, ordered⟩

end Order

/-- Seconds are refused as too short exactly if they are no positive number or round to no
nanosecond, refused as too long exactly if no span holds them, and otherwise measured within half a
nanosecond. The zones lie in this order, and in the middle one longer seconds have no shorter
span. -/
theorem seconds_fall_into_zones (seconds : Float) {nonPositive outOfRange : SettingsError}
    (distinct : nonPositive ≠ outOfRange) :
    (positiveSeconds seconds nonPositive outOfRange = .error nonPositive ↔ TooShort seconds) ∧
      (positiveSeconds seconds nonPositive outOfRange = .error outOfRange ↔ TooLong seconds) ∧
      (¬TooShort seconds → ¬TooLong seconds →
        ∃ span, positiveSeconds seconds nonPositive outOfRange = .ok span ∧ 0 < span.nanos ∧
          |(span.nanos : ℚ) - exact seconds * nanosPerSecond| ≤ 1 / 2) ∧
      ∀ later, seconds ≤ later →
        (positiveSeconds seconds nonPositive outOfRange = .error outOfRange →
          positiveSeconds later nonPositive outOfRange = .error outOfRange) ∧
        ∀ span, positiveSeconds seconds nonPositive outOfRange = .ok span →
          positiveSeconds later nonPositive outOfRange = .error outOfRange ∨
            ∃ longer, positiveSeconds later nonPositive outOfRange = .ok longer ∧
              span.nanos ≤ longer.nanos := by
  have zone := zone_positiveSeconds seconds nonPositive outOfRange
  refine ⟨zone.tooShort_iff distinct, zone.tooLong_iff distinct, ?_, ?_⟩
  · intro not_short not_long
    obtain ⟨span, measured, some_nanos, _, close⟩ := zone.measured_of_not not_short not_long
    exact ⟨span, measured, some_nanos, close⟩
  · intro later le
    have zone' := zone_positiveSeconds later nonPositive outOfRange
    constructor
    · intro refused
      have long := (zone.tooLong_iff distinct).mp refused
      exact (zone'.tooLong_iff distinct).mpr (long.mono le)
    · intro span measured
      rw [measured] at zone
      obtain ⟨not_short, not_long, nearest⟩ := zone.of_ok
      by_cases long' : TooLong later
      · exact .inl ((zone'.tooLong_iff distinct).mpr long')
      · have later_zone := not_tooShort_of_le not_short not_long le
        obtain ⟨not_short', ordered⟩ := later_zone.resolve_left long'
        obtain ⟨longer, measured', _, nearest', _⟩ := zone'.measured_of_not not_short' long'
        refine .inr ⟨longer, measured', ?_⟩
        rw [nearest, nearest']
        exact ordered

/-- Six tenths of a nanosecond are measured as a whole one, four tenths are too short, and 1e300
seconds are too long. -/
theorem zones_of_brief_and_huge :
    SettingsError.nonPositiveInterval ≠ .intervalOutOfRange 1e300 ∧
      positiveSeconds 6e-10 .nonPositiveInterval (.intervalOutOfRange 1e300) =
        .ok (.ofParts 0 1) ∧
      TooShort 4e-10 ∧ TooLong 1e300 := by
  have distinct : SettingsError.nonPositiveInterval ≠ .intervalOutOfRange 1e300 := nofun
  obtain ⟨short_iff, _, _, _⟩ := seconds_fall_into_zones 4e-10 distinct
  obtain ⟨_, long_iff, _, _⟩ := seconds_fall_into_zones 1e300 distinct
  refine ⟨distinct, by decide +kernel, short_iff.mp ?_, long_iff.mp ?_⟩
  · decide +kernel
  · decide +kernel

end Settings

end TrafficMeter
