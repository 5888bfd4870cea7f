import TrafficMeter.Proofs.Number.Zeros
import TrafficMeter.Sample.Statistics

/-! # Statistics of equal samples

The mean of equal samples is a rounded quotient of a rounded sum and need not be their value.
The deviation around it is then at least the distance to it, as a power of two, unless the
squares are too small for that; around the value itself it is a zero.
-/

namespace TrafficMeter.Sample

open Binary64

variable {samples : List Float} {around : Float}

theorem sum_concat (samples : List Float) (x : Float) :
    sum (samples ++ [x]) = sum samples + x := by
  simp [sum]

section Zeros

theorem isZero_sum (zeros : ∀ x ∈ samples, IsZero x) : IsZero (sum samples) := by
  induction samples using List.reverseRecOn with
  | nil => exact isZero_negZero
  | append_singleton samples x ih =>
      rw [sum_concat]
      apply IsZero.add
      · apply ih
        intro y present
        exact zeros y (List.mem_append_left _ present)
      · exact zeros x (by simp)

theorem isZero_mean (zeros : ∀ x ∈ samples, IsZero x) (word : samples.length < 2 ^ 64) :
    IsZero (mean samples) := by
  unfold mean
  split
  · exact isZero_zero
  · rename_i nonempty
    have positive : 0 < samples.length := by
      rw [List.length_pos_iff]
      rintro rfl
      simp at nonempty
    exact (isZero_sum zeros).div one_pos (reaches_ofNat positive word)

/-- Samples without any distance to a value have no deviation around it. -/
theorem isZero_deviation (near : ∀ x ∈ samples, IsZero (x - around)) (several : 2 ≤ samples.length)
    (word : samples.length < 2 ^ 64) : IsZero (deviation samples around) := by
  have squares : ∀ y ∈ samples.map fun x => (x - around) * (x - around), IsZero y := by
    intro y present
    obtain ⟨x, given, rfl⟩ := List.mem_map.mp present
    exact (near x given).mul_finite (near x given).isFinite
  rw [deviation, if_neg (by omega)]
  apply IsZero.sqrt
  apply (isZero_sum squares).div one_pos
  exact reaches_ofNat (by omega) (by omega)

theorem isNaN_deviation_of_short (short : samples.length < 2) :
    (deviation samples around).isNaN = true := by
  rw [deviation, if_pos short]
  rfl

theorem isNaN_or_reaches_deviation (samples : List Float) (around : Float) :
    (deviation samples around).isNaN = true ∨ Reaches 0 (parts (deviation samples around)) := by
  unfold deviation
  split
  · exact Or.inl rfl
  · exact isNaN_or_reaches_sqrt _

/-- Zeros deviate from a zero by a zero, or by no number at all if there is only one. -/
theorem isZero_or_isNaN_deviation (zeros : ∀ x ∈ samples, IsZero x) (zero : IsZero around)
    (word : samples.length < 2 ^ 64) :
    IsZero (deviation samples around) ∨ (deviation samples around).isNaN = true := by
  by_cases several : 2 ≤ samples.length
  · left
    apply isZero_deviation _ several word
    intro x given
    exact (zeros x given).sub zero
  · right
    apply isNaN_deviation_of_short
    omega

end Zeros

section Bounds

variable {k : ℤ}

theorem reaches_sum (lower : -1074 ≤ k) (each : ∀ x ∈ samples, Reaches (2 ^ k) (parts x))
    (few : samples.length ≤ 2 ^ 53) :
    Reaches (samples.length * 2 ^ k) (parts (sum samples)) := by
  induction samples using List.reverseRecOn with
  | nil => exact .zero (by simp)
  | append_singleton samples x ih =>
      rw [List.length_append, List.length_singleton] at *
      have before := ih (fun y present => each y (List.mem_append_left _ present)) (by omega)
      have last := each x (by simp)
      rw [sum_concat]
      apply reaches_add before last (representable_nat_mul_pow few lower)
      push_cast
      linarith

/-- Samples that keep a distance to a value, as a power of two, deviate that much from it. -/
theorem reaches_deviation (lower : -537 ≤ k) (several : 2 ≤ samples.length)
    (few : samples.length ≤ 2 ^ 53)
    (apart : ∀ x ∈ samples, Reaches (2 ^ k) (parts (x - around))) :
    Reaches (2 ^ k) (parts (deviation samples around)) := by
  have unit_pos : (0 : ℚ) < 2 ^ k := zpow_pos two_pos k
  have square : (2 : ℚ) ^ k * 2 ^ k = 2 ^ (k + k) := (zpow_add₀ two_ne_zero k k).symm
  have squares : ∀ y ∈ samples.map fun x => (x - around) * (x - around),
      Reaches (2 ^ (k + k)) (parts y) := by
    intro y present
    obtain ⟨x, given, rfl⟩ := List.mem_map.mp present
    have distance := apart x given
    apply reaches_mul distance distance unit_pos unit_pos (representable_pow (by omega))
    rw [square]
  have total := reaches_sum (by omega) squares (by simpa using few)
  rw [List.length_map] at total
  obtain ⟨m, e, positive, divisor, value⟩ :=
    parts_ofNat (show 0 < samples.length - 1 by omega) (by omega)
  rw [deviation, if_neg (by omega)]
  apply reaches_sqrt _ unit_pos (representable_pow (by omega)) square.le
  apply reaches_div total divisor (by positivity) (representable_pow (by omega))
  rw [value, mul_comm]
  have less : ((samples.length - 1 : ℕ) : ℚ) ≤ samples.length := by exact_mod_cast Nat.sub_le _ _
  exact mul_le_mul_of_nonneg_right less (by positivity)

end Bounds

end TrafficMeter.Sample
