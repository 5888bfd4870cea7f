import TrafficMeter.Proofs.Number.Nearest
import TrafficMeter.Proofs.Rate.Filtering
import TrafficMeter.Proofs.Spike.Forgetting

/-! # How exact a rate is

Until its window is full a filter hands on every raw rate. Such a rate is the quotient of bytes and
seconds, each of them rounded, and the quotient rounded again, before the fraction is dropped. What
that can change is small, and in whole seconds it is nothing.
-/

namespace TrafficMeter

namespace Span

open Binary64

variable {span : Span}

theorem seconds_lt (span : Span) : span.seconds < 2 ^ 64 := by
  apply Nat.div_lt_of_lt_mul
  rw [Nat.mul_comm]
  exact span.nanos_lt

theorem subsecond_lt (span : Span) : span.subsecond < nanosPerSecond := Nat.mod_lt _ (by decide)

theorem second_pos : (0 : ℚ) < nanosPerSecond := by norm_num [nanosPerSecond]

theorem nanos_div_second (span : Span) :
    (span.nanos : ℚ) / nanosPerSecond = span.seconds + span.subsecond / nanosPerSecond := by
  have parts : (span.nanos : ℚ) = nanosPerSecond * span.seconds + span.subsecond := by
    exact_mod_cast (Nat.div_add_mod span.nanos nanosPerSecond).symm
  have second_pos := second_pos
  rw [parts]
  field_simp

/-- No time that passes is shorter than a nanosecond or longer than the seconds of a word. -/
theorem nanos_div_second_bounds (some_time : 0 < span.nanos) :
    1 / 2 ^ 30 ≤ (span.nanos : ℚ) / nanosPerSecond ∧
      (span.nanos : ℚ) / nanosPerSecond < 2 ^ 64 := by
  rw [le_div_iff₀ second_pos, div_lt_iff₀ second_pos]
  have one_le : (1 : ℚ) ≤ span.nanos := by exact_mod_cast some_time
  have less : (span.nanos : ℚ) < 2 ^ 64 * nanosPerSecond := by exact_mod_cast span.nanos_lt
  exact ⟨le_trans (by norm_num [nanosPerSecond]) one_le, less⟩

theorem exists_fraction (span : Span) :
    ∃ f, Holds (parts (ofNat span.subsecond / ofNat nanosPerSecond)) f ∧
      Rounded f (span.subsecond / nanosPerSecond) := by
  have bound := span.subsecond_lt
  have second : nanosPerSecond = 1000000000 := rfl
  obtain ⟨n, holds, rounded⟩ := exists_ofNat (show span.subsecond < 2 ^ 64 by omega)
  obtain ⟨d, holds', rounded'⟩ := exists_ofNat (show nanosPerSecond < 2 ^ 64 by norm_num [second])
  rw [rounded.exact (short_natCast (by omega))] at holds
  rw [rounded'.exact (short_natCast (by norm_num [second]))] at holds'
  apply holds.div holds' second_pos
  intro some_rest
  have one_le : (1 : ℚ) ≤ span.subsecond := by exact_mod_cast some_rest
  have less : (span.subsecond : ℚ) < nanosPerSecond := by exact_mod_cast bound
  apply ordinary_of_le
  · rw [le_div_iff₀ second_pos]
    exact le_trans (by norm_num [second]) one_le
  · rw [div_le_iff₀ second_pos]
    exact less.le.trans (by norm_num [second])

/-- The seconds of a span are rounded at most twice, and not at all if they have few bits. -/
theorem exists_toSeconds (some_time : 0 < span.nanos) :
    ∃ s, Holds (parts span.toSeconds) s ∧ 0 < s ∧ Within 2 s (span.nanos / nanosPerSecond) ∧
      (Short (span.nanos / nanosPerSecond) → s = span.nanos / nanosPerSecond) := by
  obtain ⟨lower, upper⟩ := nanos_div_second_bounds some_time
  obtain ⟨w, holds, rounded⟩ := exists_ofNat span.seconds_lt
  obtain ⟨f, holds', rounded'⟩ := span.exists_fraction
  have apart : Within 1 (w + f) (span.nanos / nanosPerSecond) := by
    rw [nanos_div_second]
    exact rounded.within.add rounded'.within
  obtain ⟨most, least⟩ := apart.le_double (by norm_num) (add_nonneg holds.nonneg holds'.nonneg)
    (le_trans (by norm_num) lower)
  have ordinary : Ordinary (w + f) := ordinary_of_le (by linarith) (by linarith)
  obtain ⟨s, holdsSum, roundedSum⟩ := holds.add holds' ordinary
  have within := roundedSum.within.trans apart
  refine ⟨s, holdsSum, within.pos (lt_of_lt_of_le (by norm_num) lower), within, ?_⟩
  intro short
  have short_sum := short
  rw [nanos_div_second] at short
  have fraction_lt : (span.subsecond : ℚ) / nanosPerSecond < 1 := by
    rw [div_lt_one second_pos]
    exact_mod_cast span.subsecond_lt
  obtain ⟨short_whole, short_fraction⟩ := short.split (by positivity) fraction_lt
  have exact_sum : w + f = span.nanos / nanosPerSecond := by
    rw [rounded.exact short_whole, rounded'.exact short_fraction, nanos_div_second]
  rw [roundedSum.exact (by rwa [exact_sum]), exact_sum]

end Span

namespace Meter

open Binary64

variable {params : Spike.Params} {meter fresh : Meter} {previous current : Snapshot}
  {elapsed : Span} {bytes received sent : UInt64} {direction : Direction}

/-- The bytes of a second, without any rounding. -/
def quotient (bytes : UInt64) (elapsed : Span) : ℚ :=
  bytes.toNat * nanosPerSecond / elapsed.nanos

/-- A rate as close to the quotient as four roundings leave it. It is the whole part of the quotient
if the time is a whole number of some halved second, and neither number is too long. -/
structure Approximates (rate bytes : UInt64) (elapsed : Span) : Prop where
  lower : min ⌊quotient bytes elapsed / slack ^ 4⌋₊ (2 ^ 64 - 1) ≤ rate.toNat
  upper : rate.toNat ≤ min ⌊quotient bytes elapsed * slack ^ 4⌋₊ (2 ^ 64 - 1)
  exact (halvings parts : ℕ) (time : elapsed.nanos * 2 ^ halvings = parts * nanosPerSecond)
    (short : parts < 2 ^ 53) (few : bytes.toNat * 2 ^ halvings < 2 ^ 53) :
    rate.toNat = bytes.toNat * nanosPerSecond / elapsed.nanos

section Raw

theorem quotient_eq (bytes : UInt64) (elapsed : Span) :
    quotient bytes elapsed = bytes.toNat / (elapsed.nanos / nanosPerSecond) := by
  rw [quotient, div_div_eq_mul_div]

theorem ordinary_ratio {b s : ℚ} (near : Within 1 b bytes.toNat)
    (near' : Within 2 s (elapsed.nanos / nanosPerSecond)) (b_pos : 0 < b) (s_pos : 0 < s)
    (some_time : 0 < elapsed.nanos) : Ordinary (b / s) := by
  obtain ⟨lower, upper⟩ := Span.nanos_div_second_bounds some_time
  have time_nonneg : (0 : ℚ) ≤ elapsed.nanos / nanosPerSecond := le_trans (by norm_num) lower
  have word : (bytes.toNat : ℚ) < 2 ^ 64 := by exact_mod_cast bytes.toNat_lt
  obtain ⟨most, least⟩ := near.le_double (by norm_num) b_pos.le (Nat.cast_nonneg _)
  obtain ⟨longest, shortest⟩ := near'.le_double (by norm_num) s_pos.le time_nonneg
  have some_bytes : (1 : ℚ) ≤ bytes.toNat := by
    have positive : (0 : ℚ) < bytes.toNat := by linarith
    have positive : 0 < bytes.toNat := by exact_mod_cast positive
    exact_mod_cast positive
  apply ordinary_of_le
  · rw [le_div_iff₀ s_pos]
    linarith
  · rw [div_le_iff₀ s_pos]
    linarith

/-- In parts of a second the quotient is one of short numbers. -/
theorem whole_quotient {n nanos halvings k : ℕ}
    (time : nanos * 2 ^ halvings = k * nanosPerSecond) :
    n * nanosPerSecond / nanos = n * 2 ^ halvings / k := by
  rw [← Nat.mul_div_mul_right _ nanos (Nat.two_pow_pos halvings), time, mul_right_comm]
  exact Nat.mul_div_mul_right _ k (by decide)

/-- A raw rate is rounded at most four times. -/
theorem exists_rawRate (bytes : UInt64) (some_time : 0 < elapsed.nanos) :
    ∃ r, Holds (parts (rawRate bytes elapsed.toSeconds)) r ∧
      Within 4 r (quotient bytes elapsed) ∧
      ∀ halvings k : ℕ, elapsed.nanos * 2 ^ halvings = k * nanosPerSecond → k < 2 ^ 53 →
        bytes.toNat * 2 ^ halvings < 2 ^ 53 →
        ⌊r⌋₊ = bytes.toNat * 2 ^ halvings / k := by
  obtain ⟨b, holds, rounded⟩ := exists_toFloat bytes
  obtain ⟨s, holds', s_pos, within, exact⟩ := Span.exists_toSeconds some_time
  have time_pos : (0 : ℚ) < elapsed.nanos / nanosPerSecond :=
    lt_of_lt_of_le (by norm_num) (Span.nanos_div_second_bounds some_time).1
  obtain ⟨r, held, roundedRatio⟩ := holds.div holds' s_pos fun b_pos =>
    ordinary_ratio rounded.within within b_pos s_pos some_time
  refine ⟨r, held, ?_, ?_⟩
  · rw [quotient_eq]
    have ratio := rounded.within.div within holds.nonneg (Nat.cast_nonneg _) s_pos time_pos
    have within := roundedRatio.within.trans ratio
    exact within
  · intro halvings k time short few
    have unit_pos := Nat.two_pow_pos halvings
    have k_pos : 0 < k := by
      apply Nat.pos_of_mul_pos_right (b := nanosPerSecond)
      rw [← time]
      exact Nat.mul_pos some_time unit_pos
    have time_eq : (elapsed.nanos : ℚ) / nanosPerSecond = k / 2 ^ halvings := by
      rw [div_eq_div_iff Span.second_pos.ne' (by positivity)]
      exact_mod_cast time
    have short_time : Short (elapsed.nanos / nanosPerSecond) := by
      refine ⟨k, -(halvings : ℤ), short, ?_⟩
      rw [time_eq, zpow_neg, zpow_natCast, div_eq_mul_inv]
    have bytes_le := Nat.le_mul_of_pos_right bytes.toNat unit_pos
    have ratio : b / s = (bytes.toNat * 2 ^ halvings : ℕ) / k := by
      rw [rounded.exact (short_natCast (bytes_le.trans_lt few)), exact short_time, time_eq]
      push_cast
      field_simp
    rw [ratio] at roundedRatio
    exact floor_of_rounded k_pos few roundedRatio

theorem approximates_rawRate (bytes : UInt64) (some_time : 0 < elapsed.nanos) :
    Approximates (rawRate bytes elapsed.toSeconds).toUInt64 bytes elapsed := by
  obtain ⟨r, holds, within, exact⟩ := exists_rawRate bytes some_time
  constructor
  · rw [holds.toUInt64]
    apply min_le_min_right
    apply Nat.floor_le_floor
    rw [div_le_iff₀ (slack_pow_pos 4)]
    exact within.2
  · rw [holds.toUInt64]
    exact min_le_min_right _ (Nat.floor_le_floor within.1)
  · intro halvings k time short few
    have bound := Nat.div_le_self (bytes.toNat * 2 ^ halvings) k
    rw [holds.toUInt64, exact halvings k time short few, whole_quotient time]
    omega

end Raw

section Early

/-- One use of a meter: a rate between two given readings, or a poll. -/
inductive Use where
  | measure (previous current : Snapshot) (elapsed : Span)
  | poll (round : Round)

/-- A use, with the rate that it computes. -/
def use (meter : Meter) : Use → Meter × Option Rate
  | .measure previous current elapsed => meter.measure previous current elapsed
  | .poll round =>
      let (next, answer) := meter.poll round.since round.fetched round.cancelled
      (next, rate? answer)

def after (meter : Meter) : List Use → Meter
  | [] => meter
  | first :: uses => (meter.use first).1.after uses

/-- The rates that some uses compute. -/
def computed (meter : Meter) : List Use → List Rate
  | [] => []
  | first :: uses => (meter.use first).2.toList ++ (meter.use first).1.computed uses

/-- A use computes a rate and feeds both filters, or does neither. -/
theorem use_cases (meter : Meter) (use : Use) :
    ((meter.use use).2 = none ∧
        ∀ direction, (meter.use use).1.filter direction = meter.filter direction) ∨
      ∃ rate raw, (meter.use use).2 = some rate ∧ ∀ direction,
        (meter.use use).1.filter direction =
          ((meter.filter direction).apply (direction.pick raw)).1 := by
  cases use with
  | measure previous current elapsed =>
      cases measured : between? previous current elapsed with
      | none =>
          rw [use, measure_of_no_raw measured]
          exact .inl ⟨rfl, fun _ => rfl⟩
      | some raw =>
          obtain ⟨rate, told, touched⟩ := measure_of_raw meter measured
          exact .inr ⟨rate, raw, told, fun direction => (touched direction).1⟩
  | poll round =>
      cases measured : meter.rawRates? round with
      | none => exact .inl (poll_of_no_raw measured)
      | some raw =>
          obtain ⟨rate, told, touched⟩ := poll_of_raw measured
          exact .inr ⟨rate, raw, told, fun direction => (touched direction).1⟩

/-- Every rate that is computed has fed each filter once. -/
theorem filter_after (meter : Meter) (uses : List Use) (direction : Direction) :
    ∃ raws, raws.length = (meter.computed uses).length ∧
      (meter.after uses).filter direction = (meter.filter direction).feed raws := by
  induction uses generalizing meter with
  | nil => exact ⟨[], rfl, rfl⟩
  | cons first uses ih =>
      obtain ⟨raws, counted, fed⟩ := ih (meter.use first).1
      rcases meter.use_cases first with ⟨silent, untouched⟩ | ⟨rate, raw, told, touched⟩
      · rw [untouched direction] at fed
        refine ⟨raws, ?_, fed⟩
        simp [computed, silent, counted]
      · rw [touched direction] at fed
        refine ⟨direction.pick raw :: raws, ?_, fed⟩
        simp [computed, told, counted, Nat.add_comm]

/-- As long as fewer rates than the lag have been computed, neither window is full. -/
theorem room_of_early {uses : List Use} (built : Meter.new params = .ok fresh)
    (early : (fresh.computed uses).length < params.lag) (direction : Direction) :
    let window := ((fresh.after uses).filter direction).detector.window
    window.count < window.capacity := by
  obtain ⟨filter, same, unfed⟩ := filters_of_new built
  obtain ⟨raws, counted, fed⟩ := filter_after fresh uses direction
  obtain ⟨empty, capacity⟩ := Spike.Filter.window_of_new same
  rw [fed, unfed direction]
  dsimp only
  rw [Spike.Filter.capacity_feed same, Spike.Filter.count_feed, empty, capacity]
  omega

end Early

/-- As long as fewer rates than the lag have been computed, in whatever way, a rate over some time
is the whole part of bytes over seconds, up to four roundings, and cut off at the largest word. -/
theorem early_rates_nearly_exact {uses : List Use} (built : Meter.new params = .ok fresh)
    (early : (fresh.computed uses).length < params.lag)
    (grown : growth? previous current = some (received, sent)) (some_time : 0 < elapsed.nanos) :
    ∃ rate, ((fresh.after uses).measure previous current elapsed).2 = some rate ∧
      ∀ direction,
        Approximates (rate.bytes direction) (direction.pick (received, sent)) elapsed := by
  obtain ⟨s, holds, s_pos, _⟩ := Span.exists_toSeconds some_time
  have passed := holds.not_nonpos s_pos
  have measured : between? previous current elapsed =
      some (rawRate received elapsed.toSeconds, rawRate sent elapsed.toSeconds) := by
    simp [between?, passed, grown]
  obtain ⟨rate, told, touched⟩ := measure_of_raw (fresh.after uses) measured
  refine ⟨rate, told, ?_⟩
  intro direction
  rw [(touched direction).2, Spike.Filter.answer_of_room _ (room_of_early built early direction)]
  cases direction with
  | received => exact approximates_rawRate received some_time
  | sent => exact approximates_rawRate sent some_time

/-- 17 bytes in 17 milliseconds fall short of a thousand bytes per second, and the last byte of
2^53 + 1 in a second is lost. -/
theorem early_rate_misses_floor :
    Meter.new ⟨1, 2.0, 1.0⟩ = .ok outageMeter ∧
      (outageMeter.measure ⟨0, 0, .bits64⟩ ⟨17, 17, .bits64⟩
          (.ofParts 0 17000000)).2 = some ⟨999, 999⟩ ∧
      17 * nanosPerSecond / (Span.ofParts 0 17000000).nanos = 1000 ∧
      (outageMeter.measure ⟨0, 0, .bits64⟩ ⟨9007199254740993, 9007199254740993, .bits64⟩
          (.ofParts 1 0)).2 = some ⟨9007199254740992, 9007199254740992⟩ ∧
      9007199254740993 * nanosPerSecond / (Span.ofParts 1 0).nanos = 9007199254740993 := by
  refine ⟨rfl, ?_, ?_, ?_, ?_⟩ <;> decide +kernel

/-- After a first reading, 10 and 5 bytes in three seconds. -/
theorem early_rates_nearly_exact_thirds :
    let uses := [Use.poll ⟨.ofParts 1 0, .ok ⟨0, 0, .bits64⟩, false⟩]
    Meter.new ⟨1, 2.0, 1.0⟩ = .ok outageMeter ∧ (outageMeter.computed uses).length < 1 ∧
      growth? ⟨0, 0, .bits64⟩ ⟨10, 5, .bits64⟩ = some (10, 5) ∧
      0 < (Span.ofParts 3 0).nanos ∧
      ∃ rate, ((outageMeter.after uses).measure ⟨0, 0, .bits64⟩ ⟨10, 5, .bits64⟩
          (.ofParts 3 0)).2 = some rate ∧ rate.inBytes.toNat = 3 ∧ rate.outBytes.toNat = 1 := by
  intro uses
  have built : Meter.new ⟨1, 2.0, 1.0⟩ = .ok outageMeter := rfl
  have early : (outageMeter.computed uses).length < 1 := by decide +kernel
  have grown : growth? ⟨0, 0, .bits64⟩ ⟨10, 5, .bits64⟩ = some (10, 5) := by decide +kernel
  have some_time : 0 < (Span.ofParts 3 0).nanos := by decide
  obtain ⟨rate, told, near⟩ := early_rates_nearly_exact built early grown some_time
  have time : (Span.ofParts 3 0).nanos * 2 ^ 0 = 3 * nanosPerSecond := by decide
  refine ⟨built, early, grown, some_time, rate, told, ?_, ?_⟩
  · exact ((near .received).exact 0 3 time (by norm_num) (by decide)).trans (by decide)
  · exact ((near .sent).exact 0 3 time (by norm_num) (by decide)).trans (by decide)

end Meter

end TrafficMeter
