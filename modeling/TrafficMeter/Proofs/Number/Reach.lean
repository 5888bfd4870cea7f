import TrafficMeter.Proofs.Number.Parts

/-! # What rounding cannot fall below

A positive number is rounded to a significand of 53 bits, or to an infinity if that is too
large. If it is at least some representable number before it is rounded, it still is so
afterwards. Lower bounds that are representable therefore go through computations without
any loss.
-/

namespace TrafficMeter.Binary64

open Float.Model (UnpackedFloat Format pack totalExponent)
open Float.Model.UnpackedFloat hiding pack

/-- A number with a significand of 53 bits, however large. -/
def Representable (q : ℚ) : Prop :=
  ∃ (c : ℕ) (j : ℤ), c ≤ 2 ^ 53 ∧ -1074 ≤ j ∧ q = c * 2 ^ j

/-- A number that is not negative, an infinity too, is at least `q`. -/
inductive Reaches (q : ℚ) : UnpackedFloat → Prop where
  | infinite : Reaches q (.infinity .positive)
  | zero {s : Sign} (le : q ≤ 0) : Reaches q (.zero s)
  | finite {m : ℕ} {e : ℤ} {positive : 0 < m} (le : q ≤ m * 2 ^ e) :
      Reaches q (.finite .positive m e positive)

theorem Reaches.mono {p q : ℚ} {u : UnpackedFloat} (reached : Reaches q u) (le : p ≤ q) :
    Reaches p u := by
  cases reached with
  | infinite => exact .infinite
  | zero below => exact .zero (le.trans below)
  | finite below => exact .finite (le.trans below)

/-- Nothing representable is between significands at this exponent. -/
def Fine (m : ℕ) (e : ℤ) : Prop := 2 ^ 52 ≤ m ∨ e ≤ -1074

/-- The parts of a rounded significand; rounding up can make it one bit too long. -/
def settled (s : Sign) (r : ℕ) (e : ℤ) : UnpackedFloat :=
  if h : r = 0 then .zero s
  else if r < 2 ^ 53 then .finite s r e (Nat.pos_of_ne_zero h)
  else .finite s (2 ^ 52) (e + 1) (by norm_num)

theorem settled_of_short (s : Sign) {r : ℕ} (e : ℤ) (positive : 0 < r) (short : r < 2 ^ 53) :
    settled s r e = .finite s r e positive := by
  rw [settled, dif_neg (Nat.ne_of_gt positive), if_pos short]

section Shifting

theorem target_eq (m : ℕ) (e : ℤ) :
    Format.binary64.targetExponent (totalExponent m e) =
      max ((m.log2 : ℤ) + e - 52) (-1074) := by
  change max ((m.log2 : ℤ) + 1 + e - 53) (-1074) = _
  omega

/-- The number of bits that rounding drops. -/
def dropped (m : ℕ) (e : ℤ) : ℕ := (max ((m.log2 : ℤ) + e - 52) (-1074) - e).toNat

theorem mantissa_shift (extended : ExtendedMantissa) (k : ℕ) :
    (extended >>> k).mantissa = extended.mantissa / 2 ^ k := by
  induction k with
  | zero => exact (Nat.div_one _).symm
  | succ k ih =>
      change (extended >>> k).mantissa / 2 = _
      rw [ih, Nat.div_div_eq_div_mul, pow_succ]

@[simp] theorem mantissa_of (m : ℕ) (accuracy : Accuracy) :
    (ExtendedMantissa.ofMantissaAndAccuracy m accuracy).mantissa = m := by
  cases accuracy with
  | exact => rfl
  | inexact side => cases side <;> rfl

theorem le_roundedMantissa (extended : ExtendedMantissa) :
    extended.mantissa ≤ extended.roundedMantissa := by
  rcases extended with ⟨m, round, sticky⟩
  cases round <;> cases sticky <;>
    simp [ExtendedMantissa.roundedMantissa, ExtendedMantissa.accuracy,
      Accuracy.roundToNearestEven]

theorem roundedMantissa_le (extended : ExtendedMantissa) :
    extended.roundedMantissa ≤ extended.mantissa + 1 := by
  rcases extended with ⟨m, round, sticky⟩
  cases round <;> cases sticky <;>
    simp [ExtendedMantissa.roundedMantissa, ExtendedMantissa.accuracy,
      Accuracy.roundToNearestEven]
  omega

theorem div_dropped_lt (m : ℕ) (e : ℤ) : m / 2 ^ dropped m e < 2 ^ 53 := by
  rw [Nat.div_lt_iff_lt_mul (Nat.two_pow_pos _), ← pow_add]
  have short : m < 2 ^ (m.log2 + 1) := Nat.lt_log2_self
  have le : m.log2 + 1 ≤ 53 + dropped m e := by
    unfold dropped
    omega
  exact short.trans_le (Nat.pow_le_pow_right (by norm_num) le)

/-- What is left of a fine significand is normal, unless its exponent is the least one. -/
theorem div_dropped_normal {m : ℕ} {e : ℤ} (fine : Fine m e) :
    e + dropped m e = -1074 ∨
      e + dropped m e = (m.log2 : ℤ) + e - 52 ∧ 2 ^ 52 ≤ m / 2 ^ dropped m e := by
  by_cases least : (m.log2 : ℤ) + e - 52 ≤ -1074
  · left
    rcases fine with normal | small
    · have long := (Nat.le_log2 (by omega)).mpr normal
      unfold dropped
      omega
    · unfold dropped
      omega
  · right
    have long : 52 ≤ m.log2 := by
      rcases fine with normal | small
      · exact (Nat.le_log2 (by omega)).mpr normal
      · omega
    have drops : m.log2 = 52 + dropped m e := by
      unfold dropped
      omega
    refine ⟨by unfold dropped; omega, ?_⟩
    rw [Nat.le_div_iff_mul_le (Nat.two_pow_pos _), ← pow_add, ← drops]
    exact Nat.log2_self_le (by rintro rfl; simp at long)

private theorem shiftToTargetExponent_short {r : ℕ} {e : ℤ} (short : r < 2 ^ 53)
    (lower : -1074 ≤ e) :
    shiftToTargetExponent .binary64 r e .exact = (⟨r, false, false⟩, e) := by
  have length : r.log2 ≤ 52 := by
    by_cases zero : r = 0
    · simp [zero]
    · have := (Nat.log2_lt zero).mpr short
      omega
  have none_dropped : (Format.binary64.targetExponent (totalExponent r e) - e).toNat = 0 := by
    rw [target_eq]
    omega
  simp only [shiftToTargetExponent, shiftToExponent, none_dropped]
  rw [Nat.cast_zero, add_zero]
  rfl

private theorem shiftToTargetExponent_long {e : ℤ} (lower : -1074 ≤ e) :
    shiftToTargetExponent .binary64 (2 ^ 53) e .exact = (⟨2 ^ 52, false, false⟩, e + 1) := by
  have one_dropped :
      (Format.binary64.targetExponent (totalExponent (2 ^ 53) e) - e).toNat = 1 := by
    rw [target_eq, Nat.log2_two_pow]
    omega
  simp only [shiftToTargetExponent, shiftToExponent, one_dropped]
  rfl

private theorem settled_eq (s : Sign) {r : ℕ} {e : ℤ} (bound : r ≤ 2 ^ 53) (lower : -1074 ≤ e) :
    (let last := shiftToTargetExponent .binary64 r e .exact
      if h : last.1.mantissa = 0 then .zero s
      else .finite s last.1.mantissa last.2 (Nat.pos_of_ne_zero h)) = settled s r e := by
  unfold settled
  by_cases short : r < 2 ^ 53
  · simp only [shiftToTargetExponent_short short lower, short, if_true]
  · obtain rfl : r = 2 ^ 53 := by omega
    simp only [shiftToTargetExponent_long lower]
    norm_num

theorem roundWithAccuracy_eq (s : Sign) (m : ℕ) (e : ℤ) (accuracy : Accuracy) :
    roundWithAccuracy .binary64 s m e accuracy =
      settled s
        (ExtendedMantissa.ofMantissaAndAccuracy m accuracy >>> dropped m e).roundedMantissa
        (e + dropped m e) := by
  have first : shiftToTargetExponent .binary64 m e accuracy =
      (ExtendedMantissa.ofMantissaAndAccuracy m accuracy >>> dropped m e, e + dropped m e) := by
    simp only [shiftToTargetExponent, shiftToExponent, target_eq]
    rfl
  have lower : -1074 ≤ e + dropped m e := by
    unfold dropped
    omega
  have bound := roundedMantissa_le
    (ExtendedMantissa.ofMantissaAndAccuracy m accuracy >>> dropped m e)
  rw [mantissa_shift, mantissa_of] at bound
  have short := div_dropped_lt m e
  simp only [roundWithAccuracy, first]
  exact settled_eq s (by omega) lower

end Shifting

theorem reaches_infinity {q : ℚ} : Reaches q (pack (.infinity .positive)).unpack := by
  rw [unpack_pack (show Canonical (.infinity .positive) from trivial)]
  exact .infinite

theorem reaches_settled {q : ℚ} {r : ℕ} {e : ℤ} (bound : r ≤ 2 ^ 53) (lower : -1074 ≤ e)
    (normal : 2 ^ 52 ≤ r ∨ e = -1074) (below : q ≤ r * 2 ^ e) :
    Reaches q (pack (settled .positive r e)).unpack := by
  unfold settled
  split
  · rename_i zero
    rw [unpack_pack_zero]
    exact .zero (by simpa [zero] using below)
  · split
    · rename_i nonzero short
      by_cases large : 971 < e
      · rw [unpack_pack_overflow _ _ _ large]
        exact .infinite
      · have canonical : Canonical (.finite .positive r e (Nat.pos_of_ne_zero nonzero)) :=
          ⟨short, lower, by omega, normal⟩
        rw [unpack_pack canonical]
        exact .finite below
    · rename_i long
      obtain rfl : r = 2 ^ 53 := by omega
      by_cases large : 971 < e + 1
      · rw [unpack_pack_overflow _ _ _ large]
        exact .infinite
      · have canonical : Canonical (.finite .positive (2 ^ 52) (e + 1) (by norm_num)) :=
          ⟨by norm_num, by omega, by omega, Or.inl (le_refl _)⟩
        rw [unpack_pack canonical]
        have same : ((2 ^ 52 : ℕ) : ℚ) * 2 ^ (e + 1) = ((2 ^ 53 : ℕ) : ℚ) * 2 ^ e := by
          rw [zpow_add_one₀ two_ne_zero]
          push_cast
          ring
        exact .finite (below.trans_eq same.symm)

/-- A representable number that does not exceed a fine number does not exceed what is left
of it when bits are dropped. -/
theorem le_div_dropped {q : ℚ} {m : ℕ} {e : ℤ} (fine : Fine m e) (representable : Representable q)
    (below : q < (m + 1) * 2 ^ e) :
    q ≤ (m / 2 ^ dropped m e : ℕ) * 2 ^ (e + dropped m e) := by
  obtain ⟨c, j, short, lower, rfl⟩ := representable
  by_cases coarse : e + dropped m e ≤ j
  · -- a multiple of the unit that is left
    obtain ⟨up, rfl⟩ := Int.le.dest coarse
    have whole : (c : ℚ) * 2 ^ (e + dropped m e + up) =
        ((c * 2 ^ up : ℕ) : ℚ) * 2 ^ (e + dropped m e) := by
      rw [zpow_add₀ two_ne_zero, zpow_natCast]
      push_cast
      ring
    have inside : c * 2 ^ up * 2 ^ dropped m e < m + 1 := by
      rw [whole, zpow_add₀ two_ne_zero, mul_comm ((2 : ℚ) ^ e), ← mul_assoc, zpow_natCast] at below
      have := lt_of_mul_lt_mul_right below (zpow_nonneg zero_le_two e)
      exact_mod_cast this
    have kept : c * 2 ^ up ≤ m / 2 ^ dropped m e :=
      (Nat.le_div_iff_mul_le (Nat.two_pow_pos _)).mpr (Nat.le_of_lt_succ inside)
    rw [whole]
    exact mul_le_mul_of_nonneg_right (by exact_mod_cast kept) (zpow_nonneg zero_le_two _)
  · -- smaller than any normal significand at the unit that is left
    have below_unit : j + 1 ≤ e + dropped m e := by omega
    have normal : 2 ^ 52 ≤ m / 2 ^ dropped m e := by
      rcases div_dropped_normal fine with least | ⟨_, normal⟩
      · omega
      · exact normal
    calc (c : ℚ) * 2 ^ j ≤ 2 ^ 53 * 2 ^ j :=
          mul_le_mul_of_nonneg_right (by exact_mod_cast short) (zpow_nonneg zero_le_two _)
      _ = 2 ^ 52 * 2 ^ (j + 1) := by
          rw [zpow_add_one₀ two_ne_zero]
          ring
      _ ≤ 2 ^ 52 * 2 ^ (e + dropped m e) :=
          mul_le_mul_of_nonneg_left (zpow_le_zpow_right₀ one_le_two below_unit) (by positivity)
      _ ≤ (m / 2 ^ dropped m e : ℕ) * 2 ^ (e + dropped m e) :=
          mul_le_mul_of_nonneg_right (by exact_mod_cast normal) (zpow_nonneg zero_le_two _)

/-- Rounding a fine positive number, of which at most a fraction of its last bit is missing. -/
theorem reaches_roundWithAccuracy {q : ℚ} {m : ℕ} {e : ℤ} (accuracy : Accuracy)
    (fine : Fine m e) (representable : Representable q) (below : q < (m + 1) * 2 ^ e) :
    Reaches q (pack (roundWithAccuracy .binary64 .positive m e accuracy)).unpack := by
  have least := le_roundedMantissa
    (ExtendedMantissa.ofMantissaAndAccuracy m accuracy >>> dropped m e)
  have most := roundedMantissa_le
    (ExtendedMantissa.ofMantissaAndAccuracy m accuracy >>> dropped m e)
  rw [mantissa_shift, mantissa_of] at least most
  have short := div_dropped_lt m e
  rw [roundWithAccuracy_eq]
  apply reaches_settled
  · omega
  · unfold dropped
    omega
  · rcases div_dropped_normal fine with smallest | ⟨_, normal⟩
    · exact Or.inr smallest
    · exact Or.inl (normal.trans least)
  · refine (le_div_dropped fine representable below).trans ?_
    exact mul_le_mul_of_nonneg_right (by exact_mod_cast least) (zpow_nonneg zero_le_two _)

theorem log2_shiftLeft {m : ℕ} (positive : 0 < m) (k : ℕ) : (m <<< k).log2 = m.log2 + k := by
  rw [Nat.shiftLeft_eq, Nat.log2_eq_iff (Nat.ne_of_gt (by positivity))]
  have lower : 2 ^ m.log2 ≤ m := Nat.log2_self_le (Nat.ne_of_gt positive)
  have upper : m < 2 ^ (m.log2 + 1) := Nat.lt_log2_self
  constructor
  · rw [pow_add]
    exact Nat.mul_le_mul_right _ lower
  · rw [Nat.add_right_comm, pow_add 2 (m.log2 + 1)]
    exact Nat.mul_lt_mul_of_pos_right upper (Nat.two_pow_pos _)

/-- Lengthened to the significand that rounding aims at, any number is fine. -/
theorem fine_shiftLeft {m : ℕ} (positive : 0 < m) (e : ℤ) :
    let k := (e - max ((m.log2 : ℤ) + e - 52) (-1074)).toNat
    Fine (m <<< k) (e - k) := by
  intro k
  by_cases small : e - (k : ℤ) ≤ -1074
  · exact Or.inr small
  · refine Or.inl ((Nat.le_log2 ?_).mp ?_)
    · rw [Nat.shiftLeft_eq]
      positivity
    · rw [log2_shiftLeft positive]
      omega

theorem cast_shiftLeft_sub (m k : ℕ) (e : ℤ) :
    ((m <<< k : ℕ) : ℚ) * 2 ^ (e - (k : ℤ)) = m * 2 ^ e := by
  rw [Nat.shiftLeft_eq, zpow_sub₀ two_ne_zero, zpow_natCast]
  push_cast
  field_simp

/-- Rounding a positive number of any parts: they are made fine first. -/
theorem reaches_round {q : ℚ} {m : ℕ} {e : ℤ} (positive : 0 < m) (representable : Representable q)
    (below : q ≤ m * 2 ^ e) :
    Reaches q (pack (UnpackedFloat.round .binary64 .positive m e)).unpack := by
  have fine := fine_shiftLeft positive e
  simp only [UnpackedFloat.round, decreaseExponent, target_eq]
  generalize (e - max ((m.log2 : ℤ) + e - 52) (-1074)).toNat = k at *
  apply reaches_roundWithAccuracy _ fine representable
  calc q ≤ (m <<< k : ℕ) * 2 ^ (e - (k : ℤ)) := below.trans_eq (cast_shiftLeft_sub m k e).symm
    _ < ((m <<< k : ℕ) + 1) * 2 ^ (e - (k : ℤ)) :=
        mul_lt_mul_of_pos_right (lt_add_one _) (zpow_pos two_pos _)

end TrafficMeter.Binary64
