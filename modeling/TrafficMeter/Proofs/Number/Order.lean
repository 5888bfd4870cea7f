import TrafficMeter.Proofs.Number.Arithmetic

/-! # Order and differences

Numbers are compared by exponent and then by significand, which is the order of their values
because only the least exponent has short significands. Two numbers that differ lie at least
half a unit of the larger one apart, and their difference keeps that distance.
-/

namespace TrafficMeter.Binary64

open Float.Model (UnpackedFloat Format pack)
open Float.Model.UnpackedFloat hiding pack

variable {x y : Float}

theorem lt_iff : x < y ↔ (parts x).compare (parts y) = some .lt := by
  change decide ((parts x).lt (parts y) = true) = true ↔ _
  simp [UnpackedFloat.lt]

theorem le_iff : x ≤ y ↔ (parts x).le (parts y) = true := by
  change decide ((parts x).le (parts y) = true) = true ↔ _
  simp

section Comparison

variable {m m' : ℕ} {e e' : ℤ} {positive : 0 < m} {positive' : 0 < m'}

/-- The least distance of a positive number to a smaller one. -/
def gap (e : ℤ) : ℚ := 2 ^ max (e - 1) (-1074)

theorem gap_pos (e : ℤ) : 0 < gap e := zpow_pos two_pos _

theorem representable_gap (e : ℤ) : Representable (gap e) := representable_pow (le_max_right _ _)

theorem gap_le_unit (lower : -1074 ≤ e) : gap e ≤ 2 ^ e :=
  zpow_le_zpow_right₀ one_le_two (max_le (by omega) lower)

theorem gap_le_value (canonical : Canonical (.finite .positive m e positive)) :
    gap e ≤ m * 2 ^ e := by
  obtain ⟨_, lower, _, _⟩ := canonical
  have unit_le : (2 : ℚ) ^ e ≤ m * 2 ^ e :=
    le_mul_of_one_le_left (by positivity) (by exact_mod_cast positive)
  exact (gap_le_unit lower).trans unit_le

theorem value_add_gap_le (left : Canonical (.finite .positive m e positive))
    (right : Canonical (.finite .positive m' e' positive'))
    (less : UnpackedFloat.compare (.finite .positive m e positive)
      (.finite .positive m' e' positive') = some .lt) :
    (m : ℚ) * 2 ^ e + gap e' ≤ m' * 2 ^ e' := by
  obtain ⟨bound, lower, _, _⟩ := left
  obtain ⟨_, lower', _, normal'⟩ := right
  have ordered : e < e' ∨ e = e' ∧ m < m' := by
    simpa [UnpackedFloat.compare, Ordering.then_eq_lt, Int.compare_eq_lt,
      Nat.compare_eq_lt] using less
  rcases ordered with smaller | ⟨rfl, less_bits⟩
  · have normal : (2 : ℚ) ^ 52 ≤ m' := by
      exact_mod_cast normal'.resolve_right (by omega)
    have short : (m : ℚ) + 1 ≤ 2 ^ 53 := by exact_mod_cast bound
    have half : gap e' = 2 ^ (e' - 1) := by
      rw [gap, max_eq_left (by omega)]
    have unit : (2 : ℚ) ^ e' = 2 * 2 ^ (e' - 1) := by
      rw [← zpow_one_add₀ two_ne_zero, add_sub_cancel]
    calc (m : ℚ) * 2 ^ e + gap e' ≤ m * 2 ^ (e' - 1) + 2 ^ (e' - 1) := by
          rw [half]
          have le : (2 : ℚ) ^ e ≤ 2 ^ (e' - 1) := zpow_le_zpow_right₀ one_le_two (by omega)
          exact add_le_add_left (mul_le_mul_of_nonneg_left le (by positivity)) _
      _ = (m + 1) * 2 ^ (e' - 1) := by ring
      _ ≤ 2 ^ 53 * 2 ^ (e' - 1) := mul_le_mul_of_nonneg_right short (by positivity)
      _ = 2 ^ 52 * 2 ^ e' := by
          rw [unit]
          ring
      _ ≤ m' * 2 ^ e' := mul_le_mul_of_nonneg_right normal (by positivity)
  · have more : (m : ℚ) + 1 ≤ m' := by exact_mod_cast less_bits
    calc (m : ℚ) * 2 ^ e + gap e ≤ m * 2 ^ e + 2 ^ e := by
          exact add_le_add_right (gap_le_unit lower) _
      _ = (m + 1) * 2 ^ e := by ring
      _ ≤ m' * 2 ^ e := mul_le_mul_of_nonneg_right more (by positivity)

theorem exponent_le_of_le (left : parts x = .finite .positive m e positive)
    (right : parts y = .finite .positive m' e' positive') (le : x ≤ y) : e ≤ e' := by
  rw [le_iff, left, right] at le
  by_contra larger
  have compared : compare e e' = .gt := Int.compare_eq_gt.mpr (by omega)
  simp [UnpackedFloat.le, UnpackedFloat.compare, compared] at le

/-- A number is not below another one that is less than some bound which it reaches. -/
theorem not_lt_of_reaches {q : ℚ} (reached : Reaches q (parts x))
    (right : parts y = .finite .positive m e positive) (below : m * 2 ^ e < q) : ¬x < y := by
  have canonical_x := canonical_parts x
  have canonical_y := canonical_parts y
  have q_pos : 0 < q := below.trans' (by positivity)
  rw [lt_iff, right] at *
  generalize parts x = u at *
  intro less
  cases reached with
  | infinite => simp [UnpackedFloat.compare] at less
  | zero q_le => exact absurd q_pos (not_lt_of_ge q_le)
  | finite q_le =>
      have apart := value_add_gap_le canonical_x canonical_y less
      have := gap_pos e
      linarith

theorem pow_log2_le (positive : 0 < m) (e : ℤ) : (2 : ℚ) ^ ((m.log2 : ℤ) + e) ≤ m * 2 ^ e := by
  have lower : 2 ^ m.log2 ≤ m := Nat.log2_self_le (Nat.ne_of_gt positive)
  rw [zpow_add₀ two_ne_zero, zpow_natCast]
  exact mul_le_mul_of_nonneg_right (by exact_mod_cast lower) (by positivity)

theorem lt_pow_log2 (m : ℕ) (e : ℤ) : (m : ℚ) * 2 ^ e < 2 ^ ((m.log2 : ℤ) + e + 1) := by
  have upper : m < 2 ^ (m.log2 + 1) := Nat.lt_log2_self
  rw [add_right_comm, zpow_add₀ two_ne_zero]
  exact mul_lt_mul_of_pos_right (by exact_mod_cast upper) (by positivity)

/-- A number is not below another one if it reaches twice every power of two that the other
one reaches. -/
theorem not_lt_of_doubled {least : ℤ} (start : Reaches (2 ^ least) (parts y))
    (doubled : ∀ k, least ≤ k → Reaches (2 ^ k) (parts y) → Reaches (2 ^ (k + 1)) (parts x)) :
    ¬x < y := by
  generalize right : parts y = v at *
  cases start with
  | zero q_le => exact absurd (zpow_pos two_pos least) (not_lt_of_ge q_le)
  | infinite =>
      intro less
      rw [lt_iff, right] at less
      have unbounded := fun k later => doubled k later .infinite
      generalize parts x = u at *
      cases unbounded least (le_refl _) with
      | infinite => simp [UnpackedFloat.compare] at less
      | zero q_le => exact absurd (zpow_pos two_pos _) (not_lt_of_ge q_le)
      | @finite m e positive _ =>
          have past := unbounded (max least ((m.log2 : ℤ) + e)) (le_max_left _ _)
          cases past with
          | finite q_le =>
              have bound := lt_pow_log2 m e
              have grows : (2 : ℚ) ^ ((m.log2 : ℤ) + e + 1) ≤
                  2 ^ (max least ((m.log2 : ℤ) + e) + 1) :=
                zpow_le_zpow_right₀ one_le_two (by omega)
              linarith
  | @finite m e positive q_le =>
      have later : least ≤ (m.log2 : ℤ) + e := by
        have between := q_le.trans_lt (lt_pow_log2 m e)
        have := (zpow_lt_zpow_iff_right₀ one_lt_two).mp between
        omega
      have reached := doubled _ later (.finite (pow_log2_le positive e))
      exact not_lt_of_reaches reached right (lt_pow_log2 m e)

end Comparison

section Differences

theorem parts_sub (x y : Float) :
    parts (x - y) = (pack (UnpackedFloat.sub .binary64 (parts x) (parts y))).unpack := rfl

variable {m : ℕ} {e : ℤ} {positive : 0 < m}

/-- The difference to a smaller number keeps the gap, however it is rounded. -/
theorem reaches_sub_of_lt (less : x < y) (right : parts y = .finite .positive m e positive) :
    Reaches (gap e) (parts (y - x)) := by
  have canonical_x := canonical_parts x
  have canonical_y := canonical_parts y
  rw [lt_iff, right] at less
  rw [parts_sub]
  rw [right] at *
  generalize parts x = u at *
  match u with
  | .notANumber => simp [UnpackedFloat.compare] at less
  | .infinity .positive => simp [UnpackedFloat.compare] at less
  | .infinity .negative => exact reaches_infinity
  | .zero _ =>
      simp only [UnpackedFloat.sub]
      rw [unpack_pack canonical_y]
      exact .finite (gap_le_value canonical_y)
  | .finite .negative m' e' positive' =>
      simp only [UnpackedFloat.sub, decreaseExponent, Sign.apply, sub_neg_eq_add]
      apply reaches_normalize _ _ (representable_gap e)
      · rw [Int.cast_add, Int.cast_natCast, Int.cast_natCast, add_mul,
          cast_shiftLeft m (min_le_left e e'), cast_shiftLeft m' (min_le_right e e')]
        have := gap_le_value canonical_y
        have : (0 : ℚ) ≤ m' * 2 ^ e' := by positivity
        linarith
      · have left_pos : 0 < m <<< (e - min e e').toNat := Nat.shiftLeft_pos_iff.mpr positive
        exact_mod_cast Nat.add_pos_left left_pos _
  | .finite .positive m' e' positive' =>
      have apart := value_add_gap_le canonical_x canonical_y less
      simp only [UnpackedFloat.sub, decreaseExponent, Sign.apply]
      generalize left : m <<< (e - min e e').toNat = n
      generalize taken : m' <<< (e' - min e e').toNat = n'
      have value : (n : ℚ) * 2 ^ min e e' = m * 2 ^ e := by
        rw [← left, cast_shiftLeft m (min_le_left e e')]
      have value' : (n' : ℚ) * 2 ^ min e e' = m' * 2 ^ e' := by
        rw [← taken, cast_shiftLeft m' (min_le_right e e')]
      have distance : gap e ≤ ((n - n' : ℤ) : ℚ) * 2 ^ min e e' := by
        push_cast
        rw [sub_mul, value, value']
        linarith
      apply reaches_normalize _ _ (representable_gap e) distance
      have product_pos := (gap_pos e).trans_le distance
      exact_mod_cast pos_of_mul_pos_left product_pos (by positivity)

theorem parts_abs (x : Float) : parts x.abs = (pack (parts x).abs).unpack := rfl

/-- A number that reaches a positive bound is its own magnitude. -/
theorem abs_of_reaches {q : ℚ} (q_pos : 0 < q) (reached : Reaches q (parts x)) : x.abs = x := by
  rw [← parts_inj, parts_abs]
  have kept := pack_parts x
  generalize parts x = u at *
  cases reached with
  | infinite => exact kept
  | zero q_le => exact absurd q_pos (not_lt_of_ge q_le)
  | finite _ => exact kept

theorem sub_self_of_finite (finite : x.isFinite = true) : x - x = 0.0 := by
  change (parts x).isFinite = true at finite
  have parts_zero : parts 0.0 = .zero .positive := rfl
  rw [← parts_inj, parts_sub, parts_zero]
  generalize parts x = u at *
  match u with
  | .zero s => cases s <;> rfl
  | .finite s m e positive =>
      have equal : compare (0 : ℤ) 0 = .eq := rfl
      simp only [UnpackedFloat.sub, sub_self, UnpackedFloat.normalize, equal]
      rfl

end Differences

end TrafficMeter.Binary64
